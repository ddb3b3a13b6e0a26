import ScopedWork.System.Basic

/-! # Entering and leaving contexts

A context is entered in a scope: the nearest one on the thread's stack, or else the root that the
registry supplies. Leaving it has two steps. The first closes the scope to further work and makes
the thread wait; the second, possible once every logic of the scope is over, takes the scope off
the stack, closes it and tells what became of its logics.
-/

namespace ScopedWork

open Failure (ContextError TaskError)

namespace System

variable (system : System)

/-! ## Roots -/

def newRoot (pool : PoolId) (concurrency : Nat) : ScopeId × System :=
  system.addScope (Scope.root pool (system.pool pool).capacity concurrency)

/-- The configuration in force; reading it fixes it. -/
def readSetting : Setting.Config × System :=
  let (config, setting) := system.setting.read
  (config, { system with setting })

/-- A pool sized and named by the setting. -/
def newPool : PoolId × System :=
  let (config, system) := system.readSetting
  system.addPool
    (Pool.ofConfig (config.effective system.setting.hardware) config system.setting.stackBound)

/-- The pool of the process, made when it is first asked for. -/
def getGlobalPool : PoolId × System :=
  match system.globalPool with
  | some pool => (pool, system)
  | none =>
    let (pool, system) := system.newPool
    (pool, { system with globalPool := some pool })

/-- The root over the global pool, made when it is first asked for. -/
def getStandardRoot : ScopeId × System :=
  match system.standardRoot with
  | some root => (root, system)
  | none =>
    let (concurrency, setting) := system.setting.concurrency
    let system := { system with setting }
    let (pool, system) := system.getGlobalPool
    let (root, system) := system.newRoot pool concurrency
    (root, { system with standardRoot := some root })

def rootFrom (source : RootSource) : ScopeId × System :=
  match source with
  | .scope root => (root, system)
  | .fresh pool concurrency => system.newRoot pool concurrency
  | .standard => system.getStandardRoot

def countLookup (factory : FactoryId) : System :=
  { system with
    factories := system.factories.modify factory fun factory =>
      { factory with lookups := factory.lookups + 1 } }

/-- A factory will take its roots from elsewhere. -/
def reroute (factory : FactoryId) (source : RootSource) : System :=
  { system with factories := system.factories.modify factory ({ · with source }) }

/-- The root for a thread without a scope: the registered factory supplies it, or else it is the
standard one. -/
def supplyRoot : ScopeId × System :=
  match system.registered.bind fun id => (system.factories[id]?).map fun found => (id, found) with
  | some (id, factory) => (system.countLookup id).rootFrom factory.source
  | none => system.getStandardRoot

/-- Registers a factory, or none, and gives back the one it displaces. -/
def register (factory : Option FactoryId) : Option FactoryId × System :=
  (system.registered, { system with registered := factory })

/-- The scope that a new context of a thread is nested in. -/
def enclosing (thread : ThreadId) : ScopeId × System :=
  match (system.stack thread).currentScope? with
  | some scope => (scope, system)
  | none => system.supplyRoot

/-! ## Entering -/

def enterIn (thread : ThreadId) (parent : ScopeId) (tenure : Tenure) : ScopeId × System :=
  let within := (system.activation thread).within
  let (scope, system) := system.addScope ((system.scope parent).child parent within)
  let system := system.modifyThread thread fun t => { t with stack := t.stack.push (.scope scope) }
  (scope, system.modifyActivation thread fun a =>
    { a with handles := { scope, tenure } :: a.handles })

/-- Enters a context nested in the thread's current scope. -/
def enter (thread : ThreadId) (tenure : Tenure) : ScopeId × System :=
  let (parent, system) := system.enclosing thread
  system.enterIn thread parent tenure

def currentConcurrency (thread : ThreadId) : Nat × System :=
  let (scope, system) := system.enclosing thread
  ((system.scope scope).concurrency, system)

def reduceConcurrency (scope : ScopeId) (concurrency : Nat) : System :=
  system.modifyScope scope (·.reduce concurrency)

/-! ## Leaving -/

/-- Begins to leave a context: from now on the thread waits for the logics of its scope. -/
def beginLeave (thread : ThreadId) (scope : ScopeId) (departure : Departure) : System :=
  (system.modifyScope scope Scope.drain).modifyActivation thread
    ({ · with leaving := some (scope, departure) })

/-- Begins to exit a context, noting whether it is the current one. -/
def beginExit (thread : ThreadId) (scope : ScopeId) : System :=
  let refused := match (system.stack thread).ensureCurrent (.scope scope) with
    | .ok () => none
    | .error error => some error
  system.beginLeave thread scope (.exit refused)

def beginDrop (thread : ThreadId) (scope : ScopeId) : System :=
  system.beginLeave thread scope .drop

/-- Takes a scope off a thread's stack, wherever it sits. -/
def unstack (thread : ThreadId) (scope : ScopeId) : System :=
  system.modifyThread thread fun t => { t with stack := t.stack.remove (.scope scope) }

/-- Closes a scope and hands its first failure out. -/
def closeScope (scope : ScopeId) : Option TaskError × System :=
  ((system.scope scope).close.1, system.modifyScope scope fun scope => scope.close.2)

/-- The context of a scope is no longer an activation's. -/
def forgetHandle (thread : ThreadId) (scope : ScopeId) : System :=
  system.modifyActivation thread fun a =>
    { a with handles := a.handles.filter (·.scope ≠ scope), leaving := none }

/-- Drops a context whose logics are over: whatever had failed is lost. -/
def dropScope (thread : ThreadId) (scope : ScopeId) : System :=
  if (system.scope scope).state = .closed then system
  else ((system.unstack thread scope).closeScope scope).2

/-- Exits a context whose logics are over. The first failure is reported; a context that was not
current is taken out of the middle of the stack and reports that as well. -/
def exitScope (thread : ThreadId) (scope : ScopeId) (refused : Option Failure.StateError) :
    Option ContextError × System :=
  match refused with
  | some error =>
    match (system.unstack thread scope).closeScope scope with
    | (some failure, system) => (some (.abandoned error failure), system)
    | (none, system) => (some (.state error), system)
  | none =>
    match (system.stack thread).pop (.scope scope) with
    | .error error => (some (.state error), system.dropScope thread scope)
    | .ok stack =>
      let (failure, system) := (system.setStack thread stack).closeScope scope
      (failure.map .task, system)

/-- Leaves a context whose logics are over, and tells what the join reports. -/
def leave (thread : ThreadId) (scope : ScopeId) (departure : Departure) :
    Option ContextError × System :=
  match departure with
  | .exit refused =>
    let (error, system) := system.exitScope thread scope refused
    (error, system.forgetHandle thread scope)
  | .drop => (none, (system.dropScope thread scope).forgetHandle thread scope)

/-- A thread's second step of leaving: it takes it if the logics of the scope are over. -/
def leave? (thread : ThreadId) : Option (Option ContextError × System) :=
  match (system.activation thread).leaving with
  | none => none
  | some (scope, departure) =>
    if (system.scope scope).isSettled then some (system.leave thread scope departure) else none

/-- Keeps what a join reported as the program's last error. -/
def noteError (thread : ThreadId) (error : Option ContextError) : System :=
  system.modifyActivation thread ({ · with lastError := error })

/-! ## Snapshots -/

/-- Gives a thread the stack of a snapshot, setting its own aside. -/
def attach (thread : ThreadId) (snapshot : Stack) : System :=
  (system.modifyActivation thread fun a => { a with saved := system.stack thread :: a.saved }).setStack
    thread snapshot

/-- Gives a thread the stack of a snapshot, if there is one. -/
def attachIfAny (thread : ThreadId) : Option Stack → System
  | some snapshot => system.attach thread snapshot
  | none => system

/-- Gives a thread back the stack it had before its latest attachment, if it has one. -/
def detach (thread : ThreadId) : System :=
  match (system.activation thread).saved with
  | [] => system
  | stack :: rest => (system.modifyActivation thread ({ · with saved := rest })).setStack thread stack

end System

end ScopedWork
