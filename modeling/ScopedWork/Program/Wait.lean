import ScopedWork.Program.Act

/-! # Waiting

A run is *settled*: whoever submits or releases a work waits until that work is over or holds, so
one thread runs at a time. A step of a run goes through, or stops where a program holds, or is
unwound by a panic. What a stopped program has left to do is kept in the session; a panic goes
through block after block until it is caught, at the end of its program at the latest.

Whoever waits for work that holds has it released. How a stopped work goes on depends on the
programs themselves, so everything here takes that as a parameter, `Onward`. Who waits for work that
is lost, was never placed or stands behind a hold waits for ever, and the run hangs.
-/

namespace ScopedWork.Program

open Failure (Cause ContextError Payload TaskError)

/-- Why a step of a run does not go through. -/
inductive Interruption where
  /-- It has stopped at a hold, and what is left is kept; or the run hangs. -/
  | stopped
  /-- A panic unwinds it. -/
  | panicked (payload : Payload)

/-- A step of a run. -/
abbrev Run := ExceptT Interruption (StateM Session)

/-- How stopped works go on. -/
structure Onward where
  /-- Lets a stopped work go on until it is over or holds again. -/
  proceed : WorkId → Session → Session
  /-- Lets the works that hold and satisfy a condition go on, the earliest submitted first, until
  none of them holds. -/
  releaseAll : (Session → WorkId → Bool) → Session → Session

namespace Run

def change (f : Session → Session) : Run Unit :=
  modify f

def changeSystem (f : System → System) : Run Unit :=
  modify fun session => session.setSystem (f session.system)

def onSystem {α : Type} (f : System → α × System) : Run α :=
  modifyGet fun session =>
    let (result, system) := f session.system
    (result, session.setSystem system)

def system : Run System := do
  return (← get).system

/-- The step stops here. -/
def stop {α : Type} : Run α :=
  throw .stopped

/-- The step waits for what will never be. -/
def hang {α : Type} : Run α := do
  change (·.hang)
  stop

def panic {α : Type} (payload : Payload) : Run α :=
  throw (.panicked payload)

def tryOnSystem {α : Type} (f : System → Except Payload α × System) : Run α := do
  match ← onSystem f with
  | .ok result => return result
  | .error payload => panic payload

/-- Runs a step and catches the panic that unwinds it. -/
def attempt {α : Type} (run : Run α) : Run (Except Payload α) :=
  tryCatch (.ok <$> run) fun
    | .panicked payload => return .error payload
    | .stopped => stop

/-- Runs a program that another thread runs: its submitter goes on also if it stops. -/
def settled {α : Type} (run : Run α) : Run Unit :=
  ExceptT.lift do
    let _ ← run.run
    return

end Run

def panicOf {α : Type} : Except Payload α → Option Payload
  | .ok _ => none
  | .error payload => some payload

variable (onward : Onward) (thread : ThreadId)

/-! ## Joining -/

def isLogicOf (scope : ScopeId) (session : Session) (work : WorkId) : Bool :=
  (session.system.work work).kind == .logic scope

def isJobOf (pool : PoolId) (session : Session) (work : WorkId) : Bool :=
  let record := session.system.work work
  record.kind == .job && match record.station with
    | some lease => lease.pool == pool
    | none => false

/-- Waits for the logics of a scope that a thread has begun to leave, and leaves it. If some hold,
the wait is logged and they are released. -/
def awaitLogics (scope : ScopeId) : Run (Option ContextError) := do
  let session ← get
  if (session.earliestHolding? (isLogicOf scope session)).isSome then
    Run.change (·.note (.draining scope (session.system.scope scope)))
    Run.change (onward.releaseAll (isLogicOf scope))
  match (← Run.system).leave? thread with
  | none => Run.hang
  | some (error, system) =>
    Run.changeSystem fun _ => system
    return error

def exitContext (scope : ScopeId) : Run (Option ContextError) := do
  Run.changeSystem (·.beginExit thread scope)
  awaitLogics onward thread scope

def dropContext (scope : ScopeId) : Run Unit := do
  Run.changeSystem (·.beginDrop thread scope)
  let _ ← awaitLogics onward thread scope

/-- Runs a step inside a context without a name, which is then exited; a panic drops it. -/
def insideHidden (run : ScopeId → Run Unit) : Run (Option ContextError) := do
  let scope ← Run.onSystem (·.enter thread .hidden)
  match ← Run.attempt (run scope) with
  | .ok () => exitContext onward thread scope
  | .error payload =>
    dropContext onward thread scope
    Run.panic payload

def dropContexts : List Handle → Run Unit
  | [] => return
  | handle :: rest => do
    dropContext onward thread handle.scope
    dropContexts rest

/-- A program leaves nothing behind: its open contexts are dropped, latest first, and then its
leases. -/
def cleanUp : Run Unit := do
  dropContexts onward thread ((← Run.system).activation thread).handles
  Run.changeSystem (·.dropLeases thread)

/-! ## The end of a work -/

inductive Outcome where
  | success
  | panicked (payload : Payload)
  | failed (cause : Cause)
  /-- With a panic that kills the helper it reaches. -/
  | bombed

def Failing.cause : Failing → Cause
  | .text words => .text words
  | .coded code words => .coded code words

def resumePanic (panic : Failure.Panic) : Run Outcome := do
  let payload ← Run.onSystem fun system =>
    let (payload, cells) := system.cells.resume panic
    (payload, { system with cells })
  return .panicked payload

/-- How a program ends that is to end like this; the last error may have a say. -/
def decideOutcome : Ending → Run Outcome
  | .success => return .success
  | .panic payload => return .panicked payload
  | .fail failing => return .failed failing.cause
  | .bomb => return .bombed
  | .rethrow => do
    let system ← Run.system
    match lastPanic? system thread, (system.activation thread).lastError with
    | some panic, _ => resumePanic panic
    | none, some error => return .failed (.context error)
    | none, none => return .success
  | .repanic => do
    match lastPanic? (← Run.system) thread with
    | some panic => resumePanic panic
    | none => return .success

/-- What a panic that kills its helper says where it kills nobody. -/
def bombPayload : Payload :=
  .owned "bomb"

/-- Catches a panic: a scope is told of it as the failure of a logic. -/
def catchPayload (payload : Payload) : Run (Except TaskError Unit) := do
  let panic ← Run.onSystem fun system =>
    let (panic, cells) := system.cells.catchPanic payload
    (panic, { system with cells })
  return .error (.panicked panic)

/-- What a scope is told of the end of one of its logics. -/
def Outcome.caught : Outcome → Run (Except TaskError Unit)
  | .success => return .ok ()
  | .failed cause => return .error (.failed cause)
  | .panicked payload => catchPayload payload
  | .bombed => catchPayload bombPayload

/-- What a job panics with into the thread that runs it: a job has no other way to fail. -/
def Outcome.escaping : Outcome → Option Payload
  | .success => none
  | .failed cause => some (.owned cause.message)
  | .panicked payload => some payload
  | .bombed => some bombPayload

/-- A helper has ended a work: it dies of a bomb, or turns to the next work in its channel, which
then settles as well. Whoever released the work waits for the next one too, also if that is lost. -/
def afterWork (helper : ThreadId) (station : Lease) (dies : Bool) : Run Unit := do
  if dies then
    match ← Run.onSystem (·.helperDies helper station) with
    | none => return
    | some _ => Run.change (·.hang)
  else
    match ← Run.onSystem (·.helperNext helper station) with
    | none => return
    | some next => Run.change (onward.proceed next)

/-- How a program ends whose operations are over: by a panic of theirs, which comes before its last
word, or as it is to end. -/
def lastOutcome (voice : Voice) (ending : Ending) : Option Payload → Run Outcome
  | some payload => return .panicked payload
  | none => do
    Run.change (·.say voice (.ended voice.label))
    decideOutcome thread ending

/-- The program of a work ends, of itself or by a panic: it cleans up, the work is brought to an
end, and its helper goes on. A job that runs on the thread of its submitter may panic into it. -/
def concludeWork (work : WorkId) (voice : Voice) (ending : Ending) (panic : Option Payload) :
    Run (Option Payload) := do
  let outcome ← lastOutcome thread voice ending panic
  cleanUp onward thread
  let record := (← Run.system).work work
  let isBomb := match outcome with
    | .bombed => true
    | _ => false
  match record.kind with
  | .logic _ =>
    let result ← outcome.caught
    Run.changeSystem (·.finishLogic thread work result)
  | .job => Run.changeSystem (·.finishJob thread work)
  Run.changeSystem (·.dismiss)
  match record.kind, record.placement, record.station with
  | .logic _, .helper helper, some station =>
    afterWork onward helper station false
    return none
  | .job, .helper helper, some station =>
    afterWork onward helper station isBomb
    return none
  | .job, _, _ => return outcome.escaping
  | .logic _, _, _ => return none

/-! ## Running a work -/

/-- Runs the operations of a work as its program on a thread, from its first word to its end. -/
def asProgram (work : WorkId) (voice : Voice) (ending : Ending)
    (ops : Run (List Reply)) : Run (Option Payload) := do
  let name := ((← Run.system).thread thread).name
  Run.change (·.say voice (.started voice.label name))
  let replies ← Run.attempt ops
  concludeWork onward thread work voice ending (panicOf replies)

/-- Runs a submitted work where it was placed. A work that waits for its helper is kept if it is a
job, `waiting`; the submitter of a logic waits for it, behind a job that nobody releases meanwhile. -/
def runPlaced (work : WorkId) (placement : Placement) (waiting : Option (Logic Op))
    (run : ThreadId → Run (Option Payload)) : Run (Option Payload) :=
  match placement with
  | .inline | .returned => run thread
  | .helper helper => do
    Run.settled (run helper)
    return none
  | .queued =>
    match waiting with
    | some job => do
      Run.change (·.pause work (.fresh job))
      return none
    | none => Run.hang

end ScopedWork.Program
