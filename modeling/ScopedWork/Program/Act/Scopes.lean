import ScopedWork.Program.Op

/-! # Acts on scopes, contexts and the last error

Contexts are entered, looked at and lowered in concurrency; roots are made and shared. The error of
the program's last join can be looked at, and the payload of its panic taken or resumed.
-/

namespace ScopedWork.Program

open Failure (Panic)

variable (system : System) (thread : ThreadId)

def enteredReply (scope : ScopeId) : Reply :=
  .entered scope (system.scope scope).concurrency

def lastPanic? : Option Panic :=
  (system.activation thread).lastError.bind fun error =>
    error.taskFailure?.bind fun failure => failure.panic?

def withScope (name : String) (answer : ScopeId → Reply × System) : Reply × System :=
  match system.scope? thread name with
  | none => (.fault (.noSuch .scope), system)
  | some scope => answer scope

def withContext (name : String) (answer : ScopeId → Reply × System) : Reply × System :=
  match system.context? thread name with
  | none => (.fault (.noSuch .context), system)
  | some scope => answer scope

def ScopeAct.perform : ScopeAct → Reply × System
  | .root name pool bound =>
    if system.isTaken thread name then (.fault .nameInUse, system)
    else
      match system.pool? pool with
      | none => (.fault (.noSuch .pool), system)
      | some id =>
        let (scope, system) := system.newRoot id bound
        (enteredReply system scope, system.share name (.scope scope))
  | .enter name =>
    if system.isTaken thread name then (.fault .nameInUse, system)
    else
      let (scope, system) := system.enter thread (.owned name)
      (enteredReply system scope, system)
  | .enterIn outer name =>
    if system.isTaken thread name then (.fault .nameInUse, system)
    else
      withScope system thread outer fun outer =>
        let (scope, system) := system.enterIn thread outer (.owned name)
        (enteredReply system scope, system)
  | .set context bound =>
    withContext system thread context fun scope =>
      let system := system.reduceConcurrency scope bound
      (.number (system.scope scope).concurrency, system)
  | .reduce name bound =>
    withScope system thread name fun scope =>
      let system := system.reduceConcurrency scope bound
      (.number (system.scope scope).concurrency, system)
  | .concurrency context =>
    withContext system thread context fun scope =>
      (.number (system.scope scope).concurrency, system)
  | .currentConcurrency =>
    let (bound, system) := system.currentConcurrency thread
    (.number bound, system)
  | .stats name =>
    withScope system thread name fun scope => (.stats scope (system.scope scope), system)
  | .info name =>
    withScope system thread name fun id =>
      let scope := system.scope id
      (.scopeInfo id scope (system.pool scope.pool).capacity (system.livingParent? id).isSome,
        system)
  | .contextForm context =>
    withContext system thread context fun scope =>
      (.text (Text.variant "ConcurrentContext" ((system.scope scope).form scope)), system)
  | .parent name =>
    withScope system thread name fun scope => (.scope (system.livingParent? scope), system)
  | .samePool first second =>
    withScope system thread first fun first =>
      withScope system thread second fun second =>
        (.flag ((system.scope first).pool == (system.scope second).pool), system)
  | .lastError => (.lastError (system.activation thread).lastError, system)
  | .takePayload =>
    match lastPanic? system thread with
    | none => (.fault .noPanic, system)
    | some panic =>
      let (payload, cells) := system.cells.take panic
      (.payload payload, { system with cells })
  | .resume =>
    match lastPanic? system thread with
    | none => (.fault .noPanic, system)
    | some panic =>
      let (payload, cells) := system.cells.resume panic
      (.payload (some payload), { system with cells })
  | .keep name kept =>
    if system.isTaken thread kept then (.fault .nameInUse, system)
    else withScope system thread name fun scope => (.ok, system.share kept (.scope scope))
  | .forget name =>
    match system.entry? name with
    | some (.scope _) => (.ok, system.unshare name)
    | _ => (.fault (.noSuch .scope), system)

end ScopedWork.Program
