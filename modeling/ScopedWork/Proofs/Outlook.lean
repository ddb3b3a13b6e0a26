import ScopedWork.Program.Run

/-! # What a program can tell

Whether a logic runs on a helper or on its submitter's thread is up to the pools. What is left of a
process when everything that shows the placement is left out is the *outlook* of a program: all
scopes with their states, counts and failures, the log, and its own stack, contexts and last error.

An operation of a *plain* program, one that is made from contexts alone, changes the outlook in a
way that the outlook determines. It is written here as a function, which knows of no threads, pools
or works: a logic is carried out where it is submitted, in an outlook of its own.
-/

namespace ScopedWork

/-! ## Leaving the placement out -/

/-- A scope without what it has from its pool and what it tells of helpers. -/
def Scope.outline (scope : Scope) : Scope :=
  { scope with within := none, pool := 0, concurrency := 0, pooled := 0, inlined := 0 }

/-- A source of roots without the pool it makes them over. -/
def RootSource.outline : RootSource → RootSource
  | scope id => .scope id
  | fresh _ _ => .fresh 0 0
  | standard => .standard

/-- What a shared name stands for, without the number of a pool. -/
def Entry.outline : Entry → Entry
  | pool _ => .pool 0
  | scope id => .scope id
  | object kind => .object kind
  | snapshot stack => .snapshot stack
  | factory id => .factory id

namespace Program

open Failure (Cells ContextError Panic TaskError)

/-- The answer of an operation without concurrencies and placements. The number that `set` answers is
a concurrency. -/
def Reply.outline (operation : Title) : Reply → Reply
  | .entered id _ => .entered id 0
  | .placed _ => .placed true
  | .stats id counts => .stats id counts.outline
  | .number n => if operation = .word "set" then .number 0 else .number n
  | reply => reply

/-- An event without the name of the thread it happened on. -/
def Event.outline : Event → Event
  | .started label _ => .started label ""
  | .replied label operation reply => .replied label operation (reply.outline operation)
  | event => event

/-- The answers of operations in order, without concurrencies and placements. -/
def outlines (ops : List Op) (replies : List Reply) : List Reply :=
  List.zipWith (fun op reply => reply.outline op.title) ops replies

/-! ## Plain programs -/

/-- An act that enters a context, lowers its concurrency, or looks at what a program can tell. -/
def Act.isPlain : Act → Bool
  | .scopes (.enter _) | .scopes (.enterIn ..) | .scopes (.set ..) | .scopes (.stats _) | .scopes .lastError => true
  | .stacks .depth | .stacks (.current _) => true
  | .note _ => true
  | _ => false

mutual

/-- An operation on contexts whose programs are plain as well. -/
def Op.isPlain : Op → Bool
  | .act a => a.isPlain
  | .exec _ logic => Op.isPlainLogic logic
  | .executeAll logics => Op.arePlainLogics logics
  | .exit _ | .drop _ => true
  | .withContext _ body _ _ => Op.arePlain body
  | _ => false

def Op.arePlain : List Op → Bool
  | [] => true
  | op :: rest => op.isPlain && Op.arePlain rest

def Op.isPlainLogic : Logic Op → Bool
  | ⟨_, _, body, _⟩ => Op.arePlain body

def Op.arePlainLogics : List (Logic Op) → Bool
  | [] => true
  | logic :: rest => Op.isPlainLogic logic && Op.arePlainLogics rest

end

/-! ## The outlook -/

/-- A process as a program of one of its threads can tell it. -/
structure Outlook where
  scopes : List Scope
  cells : Cells
  directory : List (String × Entry)
  sources : List RootSource
  registered : Option FactoryId
  standardRoot : Option ScopeId
  log : List Event
  stack : Stack
  /-- The program's contexts, latest first. -/
  handles : List Handle
  /-- The names of the program's leases, latest first. -/
  leases : List String
  lastError : Option ContextError
  /-- Whether somebody waits for what will never be. -/
  hangs : Bool

/-- The outlook of the program that a thread runs now. -/
def Session.outlook (session : Session) (thread : ThreadId) : Outlook :=
  { scopes := session.system.scopes.map Scope.outline
    cells := session.system.cells
    directory := session.system.directory.map fun shared => (shared.1, shared.2.outline)
    sources := session.system.factories.map (·.source.outline)
    registered := session.system.registered
    standardRoot := session.system.standardRoot
    log := session.log.map Event.outline
    stack := session.system.stack thread
    handles := (session.system.activation thread).handles
    leases := (session.system.activation thread).leases.map (·.1)
    lastError := (session.system.activation thread).lastError
    hangs := session.hangs }

namespace Outlook

variable (outlook : Outlook)

def scope (id : ScopeId) : Scope :=
  outlook.scopes[id]?.getD default

def say (voice : Voice) (event : Event) : Outlook :=
  if voice.quiet then outlook else { outlook with log := event.outline :: outlook.log }

/-! ### Names -/

/-- What a shared name stands for. -/
def named? (name : String) : Option Entry :=
  outlook.directory.lookup name

def isTaken (name : String) : Bool :=
  outlook.handles.any (·.tenure.name? == some name) || outlook.leases.any (· == name)
    || (outlook.named? name).isSome

def context? (name : String) : Option ScopeId :=
  outlook.handles.findSome? fun handle =>
    if handle.tenure.name? = some name then some handle.scope else none

def ownContext? (name : String) : Option ScopeId :=
  outlook.handles.findSome? fun handle => if handle.isOwnedAs name then some handle.scope else none

def scope? (name : String) : Option ScopeId :=
  match outlook.context? name, outlook.named? name with
  | some scope, _ => some scope
  | none, some (.scope scope) => some scope
  | none, _ => none

/-! ### Contexts -/

def modifyScope (id : ScopeId) (change : Scope → Scope) : Outlook :=
  { outlook with scopes := outlook.scopes.modify id change }

def addScope (scope : Scope) : ScopeId × Outlook :=
  (outlook.scopes.length, { outlook with scopes := outlook.scopes ++ [scope] })

def getStandardRoot : ScopeId × Outlook :=
  match outlook.standardRoot with
  | some root => (root, outlook)
  | none =>
    let (root, outlook) := outlook.addScope default
    (root, { outlook with standardRoot := some root })

def rootFrom : RootSource → ScopeId × Outlook
  | .scope root => (root, outlook)
  | .fresh _ _ => outlook.addScope default
  | .standard => outlook.getStandardRoot

def enclosing : ScopeId × Outlook :=
  match outlook.stack.currentScope? with
  | some scope => (scope, outlook)
  | none =>
    match outlook.registered.bind fun id => outlook.sources[id]? with
    | some source => outlook.rootFrom source
    | none => outlook.getStandardRoot

def enterIn (parent : ScopeId) (tenure : Tenure) : ScopeId × Outlook :=
  let (scope, outlook) := outlook.addScope { (default : Scope) with parent := some parent }
  (scope,
    { outlook with
      stack := outlook.stack.push (.scope scope)
      handles := { scope, tenure } :: outlook.handles })

def enter (tenure : Tenure) : ScopeId × Outlook :=
  let (parent, outlook) := outlook.enclosing
  outlook.enterIn parent tenure

/-- Leaves a context: it is no longer on the stack, wherever it was. -/
def leave (scope : ScopeId) : Outlook :=
  { outlook.modifyScope scope (·.close.2) with
    stack := outlook.stack.remove (.scope scope)
    handles := outlook.handles.filter (·.scope ≠ scope) }

/-- What the exit of a context reports. -/
def report (scope : ScopeId) : Option ContextError :=
  match outlook.stack.ensureCurrent (.scope scope), (outlook.scope scope).firstFailure with
  | .ok (), failure => failure.map .task
  | .error error, some failure => some (.abandoned error failure)
  | .error error, none => some (.state error)

def leaveAll (outlook : Outlook) : List Handle → Outlook
  | [] => outlook
  | handle :: rest => leaveAll (outlook.leave handle.scope) rest

def cleanUp : Outlook :=
  outlook.leaveAll outlook.handles

/-- Keeps what a join reported, and answers with it. -/
def joined (error : Option ContextError) : Reply × Outlook :=
  (.joined error, { outlook with lastError := error })

/-! ### The ends of programs -/

def lastPanic? : Option Panic :=
  outlook.lastError.bind fun error => error.taskFailure?.bind fun failure => failure.panic?

def resumePanic (panic : Panic) : Outcome × Outlook :=
  let (payload, cells) := outlook.cells.resume panic
  (.panicked payload, { outlook with cells })

def decideOutcome : Ending → Outcome × Outlook
  | .success => (.success, outlook)
  | .panic payload => (.panicked payload, outlook)
  | .fail failing => (.failed failing.cause, outlook)
  | .bomb => (.bombed, outlook)
  | .rethrow =>
    match outlook.lastPanic?, outlook.lastError with
    | some panic, _ => outlook.resumePanic panic
    | none, some error => (.failed (.context error), outlook)
    | none, none => (.success, outlook)
  | .repanic =>
    match outlook.lastPanic? with
    | some panic => outlook.resumePanic panic
    | none => (.success, outlook)

/-- What a scope is told of the end of one of its logics. -/
def catchOutcome : Outcome → Except TaskError Unit × Outlook
  | .success => (.ok (), outlook)
  | .failed cause => (.error (.failed cause), outlook)
  | .panicked payload =>
    let (panic, cells) := outlook.cells.catchPanic payload
    (.error (.panicked panic), { outlook with cells })
  | .bombed =>
    let (panic, cells) := outlook.cells.catchPanic bombPayload
    (.error (.panicked panic), { outlook with cells })

/-- The outlook of a program that sees the stack as it is and has nothing of its own. -/
def bare : Outlook :=
  { outlook with handles := [], leases := [], lastError := none }

def begin (scope : ScopeId) (voice : Voice) : Outlook :=
  (outlook.modifyScope scope Scope.countDispatched).bare.say voice (.started voice.label "")

/-- A logic is over, and its submitter, whose outlook was `outer`, goes on. -/
def backTo (outer : Outlook) : Outlook :=
  { outlook with
    stack := outer.stack, handles := outer.handles, leases := outer.leases, lastError := outer.lastError }

/-- A program has come to the end of its operations, and cleans up; a scope would be told this. -/
def finish (voice : Voice) (ending : Ending) : Except TaskError Unit × Outlook :=
  let (outcome, outlook) := (outlook.say voice (.ended voice.label)).decideOutcome ending
  outlook.cleanUp.catchOutcome outcome

/-- A logic of a scope has come to the end of its operations, and the scope is told. -/
def conclude (scope : ScopeId) (voice : Voice) (ending : Ending) : Outlook :=
  let (result, outlook) := outlook.finish voice ending
  (outlook.modifyScope scope (·.record result)).modifyScope scope Scope.complete

/-! ### Operations -/

def performAct : Act → Reply × Outlook
  | .scopes (.enter name) =>
    if outlook.isTaken name then (.fault .nameInUse, outlook)
    else
      let (scope, outlook) := outlook.enter (.owned name)
      (.entered scope 0, outlook)
  | .scopes (.enterIn outer name) =>
    if outlook.isTaken name then (.fault .nameInUse, outlook)
    else
      match outlook.scope? outer with
      | none => (.fault (.noSuch .scope), outlook)
      | some outer =>
        let (scope, outlook) := outlook.enterIn outer (.owned name)
        (.entered scope 0, outlook)
  | .scopes (.set context _) =>
    match outlook.context? context with
    | none => (.fault (.noSuch .context), outlook)
    | some _ => (.number 0, outlook)
  | .scopes (.stats name) =>
    match outlook.scope? name with
    | none => (.fault (.noSuch .scope), outlook)
    | some scope => (.stats scope (outlook.scope scope), outlook)
  | .scopes .lastError => (.lastError outlook.lastError, outlook)
  | .stacks .depth => (.number outlook.stack.depth, outlook)
  | .stacks (.current none) => (.fault .unknownKind, outlook)
  | .stacks (.current (some kind)) => (.context (outlook.stack.find? kind), outlook)
  | .note value => (.value value, outlook)
  | _ => (.nothing, outlook)

mutual

def performAll (voice : Voice) (logged : Bool) : List Op → Outlook → List Reply × Outlook
  | [], outlook => ([], outlook)
  | op :: rest, outlook =>
    let (reply, outlook) := perform voice op outlook
    let outlook := if logged then outlook.say voice (.replied voice.label op.title reply) else outlook
    let (replies, outlook) := performAll voice logged rest outlook
    (reply :: replies, outlook)

def perform (voice : Voice) : Op → Outlook → Reply × Outlook
  | .act a, outlook => outlook.performAct a
  | .exec context logic, outlook =>
    match outlook.context? context with
    | none => (.fault (.noSuch .context), outlook)
    | some scope => (.placed true, performLogic scope true logic outlook)
  | .executeAll logics, outlook =>
    let (scope, outlook) := outlook.enter .hidden
    let outlook := performLogics scope logics outlook
    (outlook.leave scope).joined (outlook.report scope)
  | .exit context, outlook =>
    match outlook.ownContext? context with
    | none => (.fault (.noSuch .context), outlook)
    | some scope => (outlook.leave scope).joined (outlook.report scope)
  | .drop context, outlook =>
    match outlook.ownContext? context with
    | none => (.fault (.noSuch .context), outlook)
    | some scope => (.ok, outlook.leave scope)
  | .withContext name body value panic, outlook =>
    if outlook.isTaken name then (.fault .nameInUse, outlook)
    else
      let (scope, outlook) := outlook.enter (.lent name)
      let outlook := (performAll voice true body outlook).2
      match panic, outlook.report scope with
      | some payload, _ => (.panicked payload, outlook.leave scope)
      | none, none => (.returned value, outlook.leave scope)
      | none, some error => (outlook.leave scope).joined (some error)
  | _, outlook => (.nothing, outlook)

/-- Carries a logic out where it is submitted. The error that it returns counts only if it is
`tried`. -/
def performLogic (scope : ScopeId) (tried : Bool) : Logic Op → Outlook → Outlook
  | ⟨label, quiet, body, declared⟩, outlook =>
    let voice : Voice := { label, quiet }
    let inner := (performAll voice true body (outlook.begin scope voice)).2
    (inner.conclude scope voice (if tried then declared else declared.withoutError)).backTo outlook

def performLogics (scope : ScopeId) : List (Logic Op) → Outlook → Outlook
  | [], outlook => outlook
  | logic :: rest, outlook => performLogics scope rest (performLogic scope false logic outlook)

end

end Outlook

end Program

end ScopedWork
