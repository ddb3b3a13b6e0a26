import ScopedWork.System.Contexts

/-! # Submitting work and bringing it to an end

A logic is submitted to a scope in one step: it is counted, a slot below the scope's concurrency
is leased if one is free, and the logic goes to the slot's helper together with the submitter's
stack; without a slot, or without a living helper, the submitter runs it. A job is dispatched
through a lease that a program has acquired itself.

A logic ends in three steps, in this order: its outcome is recorded in its scope, its lease is
given back, and it is counted as over. Its helper then takes the next job in its channel. A failure
that the scope does not keep is dropped as it is recorded. Should that panic, the panic, whose own
payload can be dropped, unwinds the end of the logic: the lease is given back, but nobody counts the
logic.
-/

namespace ScopedWork

open Failure (Payload TaskError)

namespace System

variable (system : System)

/-! ## Leases -/

/-- Acquires a lease of one of the first `limit` slots of a pool. A helper that has to be started
becomes a thread of the process, unless the attempt to start it panics. -/
def acquire (pool : PoolId) (limit : Nat) : Except Payload (Option Lease) × System :=
  let (acquired, changed) := (system.pool pool).tryAcquire limit system.threads.length
  let system := system.modifyPool pool fun _ => changed
  match acquired with
  | .error payload => (.error payload, system)
  | .ok none => (.ok none, system)
  | .ok (some acquired) =>
    let lease := { pool, slot := acquired.slot }
    if acquired.started then
      (.ok (some lease), (system.addThread { name := changed.helperName acquired.slot }).2)
    else (.ok (some lease), system)

def release (lease : Lease) : System :=
  system.modifyPool lease.pool (·.release lease.slot)

/-- Gives back the lease that a work holds, if it does. -/
def vacate (work : WorkId) : System :=
  let record := system.work work
  let system := match record.leased, record.station with
    | true, some lease => system.release lease
    | _, _ => system
  system.modifyWork work ({ · with leased := false })

/-! ## Beginning -/

/-- A thread begins a work, on top of whatever it runs; `snapshot` is the stack it is to see, if
that is not the thread's own. -/
def beginWork (thread : ThreadId) (work : WorkId) (snapshot : Option Stack) : System :=
  let saved := match snapshot with
    | some _ => [system.stack thread]
    | none => []
  let system := system.modifyWork work fun w =>
    { w with phase := .running, snapshot := none, runs := thread :: w.runs }
  let system := system.modifyThread thread fun t =>
    { t with activations := { role := .work work, within := some work, saved } :: t.activations }
  match snapshot with
  | some stack => system.setStack thread stack
  | none => system

/-- Sends a work through a lease; without a living helper the dispatching thread begins it. -/
def handOver (thread : ThreadId) (lease : Lease) (work : WorkId) (snapshot : Option Stack) :
    Placement × System :=
  let (handoff, pool) := (system.pool lease.pool).dispatch lease.slot work
  let system := system.modifyPool lease.pool fun _ => pool
  let (placement, system) : Placement × System := match handoff with
    | .returned => (.returned, system.beginWork thread work snapshot)
    | .begun helper => (.helper helper, system.beginWork helper work snapshot)
    | .queued | .blocked => (.queued, system)
  (placement, system.modifyWork work ({ · with placement }))

/-- Submits a logic to a scope. A panic on the way to a lease leaves the logic counted as
dispatched, though it will never be over. -/
def submit (thread : ThreadId) (scope : ScopeId) :
    Except Payload (WorkId × Placement) × System :=
  let snapshot := system.stack thread
  let within := (system.activation thread).within
  let record := system.scope scope
  let (acquired, system) := (system.modifyScope scope Scope.countDispatched).acquire record.pool
    record.concurrency
  match acquired with
  | .error payload => (.error payload, system)
  | .ok (some lease) =>
    let (work, system) := (system.modifyScope scope Scope.countPooled).addWork
      { kind := .logic scope, submitter := thread, within, placement := .queued,
        station := some lease, leased := true, snapshot := some snapshot }
    let (placement, system) := system.handOver thread lease work (some snapshot)
    (.ok (work, placement), system)
  | .ok none =>
    let (work, system) := (system.modifyScope scope Scope.countInlined).addWork
      { kind := .logic scope, submitter := thread, within, placement := .inline,
        station := none, leased := false }
    (.ok (work, .inline), system.beginWork thread work none)

def dispatchJob (thread : ThreadId) (lease : Lease) : (WorkId × Placement) × System :=
  let (work, system) := system.addWork
    { kind := .job, submitter := thread, within := (system.activation thread).within,
      placement := .queued, station := some lease, leased := true }
  let (placement, system) := system.handOver thread lease work none
  ((work, placement), system)

/-! ## Ending -/

/-- The program of a thread's innermost activation has ended: the stack that was set aside when it
began comes back. -/
def endProgram (thread : ThreadId) : System :=
  match (system.activation thread).saved.getLast? with
  | some stack => (system.modifyActivation thread ({ · with saved := [] })).setStack thread stack
  | none => system

/-- Whether a panic unwinds the end of a logic that has come to an outcome. -/
def unwindsOn (work : WorkId) (outcome : Except TaskError Unit) : Bool :=
  match (system.work work).kind with
  | .logic scope => (system.scope scope).unwindsOn outcome
  | .job => false

theorem unwindsOn_logic {work : WorkId} {scope : ScopeId} (kind : (system.work work).kind = .logic scope)
    (outcome : Except TaskError Unit) : system.unwindsOn work outcome = (system.scope scope).unwindsOn outcome := by
  rw [unwindsOn, kind]

/-- The outcome of a logic is recorded in its scope; `unwound` if that ends in a panic. -/
def recordOutcome (work : WorkId) (outcome : Except TaskError Unit) (unwound : Bool) : System :=
  let system := match (system.work work).kind with
    | .logic scope => system.modifyScope scope (·.record outcome)
    | .job => system
  let failed := match outcome with
    | .ok () => false
    | .error _ => true
  system.modifyWork work ({ · with phase := .recorded, failed, unwound })

/-- A work gives its lease back before it is counted as over. -/
def vacateAtEnd (work : WorkId) : System :=
  (system.vacate work).modifyWork work ({ · with phase := .vacated })

/-- A work is over, and a logic is counted as such by its scope. -/
def completeWork (work : WorkId) : System :=
  let unwound := (system.work work).unwound
  let system := match (system.work work).kind with
    | .logic scope => system.modifyScope scope (·.countOver unwound)
    | .job => system
  system.modifyWork work ({ · with phase := .over })

def popActivation (thread : ThreadId) : System :=
  system.modifyThread thread fun t => { t with activations := t.activations.tail }

/-- A thread ends a logic whose failure, if any, can be dropped: recorded, vacated, counted. -/
def finishLogic (thread : ThreadId) (work : WorkId) (outcome : Except TaskError Unit) : System :=
  ((((system.endProgram thread).recordOutcome work outcome false).vacateAtEnd work).completeWork
    work).popActivation thread

/-- A thread ends a job: nobody records its outcome or counts it. -/
def finishJob (thread : ThreadId) (work : WorkId) : System :=
  (((system.endProgram thread).vacateAtEnd work).completeWork work).popActivation thread

/-- Whether a work was submitted during another, directly or through works in between. A work is
submitted during an earlier one, so the chain has at most as many links as there are works. -/
def isSubmittedDuring (ancestor : WorkId) : (links : Nat) → WorkId → Bool
  | 0, _ => false
  | links + 1, work =>
    match (system.work work).within with
    | none => false
    | some outer => outer == ancestor || isSubmittedDuring ancestor links outer

def endThread (thread : ThreadId) : System :=
  system.modifyThread thread ({ · with stack := {}, activations := [] })

/-- A helper that has nothing to run is gone, and its stack with it. -/
def retire (helper : ThreadId) : System :=
  system.setStack helper {}

/-- A helper that has ended a job begins the one that waits in its channel, if any; it leaves if
the channel has been cut. -/
def helperNext (thread : ThreadId) (station : Lease) : Option WorkId × System :=
  let (next, pool) := (system.pool station.pool).nextJob station.slot
  let system := system.modifyPool station.pool fun _ => pool
  match next with
  | some (thread, work) =>
    let system := system.beginWork thread work (system.work work).snapshot
    (some work, system.modifyWork work ({ · with placement := .helper thread }))
  | none =>
    match (pool.slot station.slot).helper with
    | .absent => (none, system.retire thread)
    | .idle _ | .busy _ _ => (none, system)

/-- The helper of a slot dies. The work in its channel is lost, and its lease given back. -/
def helperDies (thread : ThreadId) (station : Lease) : Option WorkId × System :=
  let (lost, pool) := (system.pool station.pool).helperDies station.slot
  let system := (system.modifyPool station.pool fun _ => pool).retire thread
  match lost with
  | none => (none, system)
  | some work =>
    (some work,
      (system.vacate work).modifyWork work ({ · with phase := .discarded, snapshot := none }))

end System

end ScopedWork
