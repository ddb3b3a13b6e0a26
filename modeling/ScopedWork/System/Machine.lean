import ScopedWork.System.Names

/-! # Threads that interleave

A process as a machine: an action is one step of one thread, of one helper, or of the outside, and a
run takes enabled actions in any order. What a program does next is left open, so the runs of the
machine are those of every family of programs under every schedule. Programs are only held to
leave nothing behind when they end, and to use their own contexts.

To submit a logic is one step. Its end is three: its outcome is recorded, its lease is given back,
and it is counted as over. A pool is dropped at a moment of the outside's choice. Nothing that needs
the pool is enabled afterwards: whoever can name a pool, or a scope over it, keeps it alive.
-/

namespace ScopedWork

open Failure (TaskError)

/-- One step of a process. A thread's steps are those of its innermost activation. -/
inductive Action where
  -- contexts
  /-- A program enters a context in its thread's current scope. -/
  | enter (thread : ThreadId) (tenure : Tenure)
  /-- A program enters a context in a scope it names. -/
  | enterIn (thread : ThreadId) (parent : ScopeId) (tenure : Tenure)
  | reduce (scope : ScopeId) (concurrency : Nat)
  | submit (thread : ThreadId) (scope : ScopeId)
  | beginExit (thread : ThreadId) (scope : ScopeId)
  | beginDrop (thread : ThreadId) (scope : ScopeId)
  /-- A join has nothing more to wait for, and the context is left. -/
  | leave (thread : ThreadId)
  | attach (thread : ThreadId) (snapshot : Stack)
  | detach (thread : ThreadId)
  -- leases and jobs
  | acquire (thread : ThreadId) (pool : PoolId) (limit : Nat) (name : String)
  | dropLease (thread : ThreadId) (name : String)
  /-- A lease is handed to the program of another thread. -/
  | passLease (thread other : ThreadId) (name : String)
  | dispatch (thread : ThreadId) (name : String)
  /-- A job gives up its own lease and goes on. -/
  | free (thread : ThreadId)
  -- the end of a work
  /-- The program of a logic is over, and what became of it is recorded. A failure that its scope
  does not keep is dropped, which may panic. -/
  | endLogic (thread : ThreadId) (outcome : Except TaskError Unit)
  /-- The program of a job is over, and its lease is dropped. -/
  | endJob (thread : ThreadId)
  /-- A logic that is recorded gives its lease back. -/
  | vacate (thread : ThreadId)
  /-- A work that holds no lease any more is over, and counted unless its end was unwound. -/
  | complete (thread : ThreadId)
  -- helpers
  /-- A helper has ended its work and turns to its channel. -/
  | next (station : Lease)
  /-- A helper dies of the job it has ended. -/
  | die (station : Lease)
  -- the outside
  | makePool (capacity : Nat) (config : Setting.Config)
  | dropPool (pool : PoolId)
  /-- The system refuses, or no longer refuses, a slot its thread. -/
  | bar (station : Lease) (barred : Bool)
  | makeRoot (pool : PoolId) (concurrency : Nat)
  | makeFactory (factory : Factory)
  /-- What a factory supplies is for its own code to say, and may be another root each time. -/
  | reroute (factory : FactoryId) (source : RootSource)
  | register (factory : Option FactoryId)
  | configure (setting : Setting.State)
  /-- A program starts a thread; `joined` if a work during which it does waits for the thread. -/
  | start (thread : ThreadId) (name : String) (joined : Bool)
  /-- The program of a thread is over. -/
  | finish (thread : ThreadId)

def WorkKind.isLogic : WorkKind → Bool
  | logic _ => true
  | job => false

namespace System

variable (system : System)

/-! ## What enables an action -/

def station (lease : Lease) : Slot WorkId :=
  (system.pool lease.pool).slot lease.slot

def currentWork? (thread : ThreadId) : Option WorkId :=
  match (system.activation thread).role with
  | .program => none
  | .work work => some work

/-- Whether the innermost activation of a thread is in the midst of its program: it neither waits to
leave a context nor has come to its end. -/
def isRunning (thread : ThreadId) : Bool :=
  match (system.thread thread).activations with
  | [] => false
  | activation :: _ =>
    activation.leaving.isNone && match activation.role with
      | .program => true
      | .work work => (system.work work).phase == .running

/-- Whether a thread's innermost activation has the context of a scope. -/
def owns (thread : ThreadId) (scope : ScopeId) : Bool :=
  (system.activation thread).handles.any (·.scope == scope)

/-- Whether a thread's innermost activation has neither contexts nor leases left. -/
def isBare (thread : ThreadId) : Bool :=
  (system.activation thread).handles.isEmpty && (system.activation thread).leases.isEmpty

/-- Whether every thread that a work waits for is over. -/
def isJoined (work : WorkId) : Bool :=
  system.threads.all fun thread => thread.activations.all fun activation =>
    activation.within != some work || activation.role == .work work

def isUsable (scope : ScopeId) : Bool :=
  !(system.pool (system.scope scope).pool).dropped

/-- How many snapshots the innermost activation of a thread has attached itself. -/
def attachments (thread : ThreadId) : Nat :=
  let activation := system.activation thread
  match activation.role with
  | .program => activation.saved.length
  | .work work =>
    match (system.work work).kind, (system.work work).station with
    | .logic _, some _ => activation.saved.length - 1
    | .logic _, none | .job, _ => activation.saved.length

/-- Whether a thread is in the midst of the program of a work of a kind that satisfies `kind`, and
the program can end. -/
def canEnd (thread : ThreadId) (kind : WorkKind → Bool) : Bool :=
  system.isRunning thread && system.isBare thread && match system.currentWork? thread with
    | some work => kind (system.work work).kind && system.isJoined work
    | none => false

/-- Whether the work that a thread runs has come to a phase of its end. -/
def isEnding (thread : ThreadId) (phase : WorkPhase) : Bool :=
  match system.currentWork? thread with
  | some work => (system.work work).phase == phase
  | none => false

/-- Whether a helper has ended a work of a kind that satisfies `kind`, and has not turned to its
channel since. -/
def hasEnded (station : Lease) (kind : WorkKind → Bool) : Bool :=
  match (system.station station).helper with
  | .busy _ work => (system.work work).phase == .over && kind (system.work work).kind
  | .absent | .idle _ => false

/-- What enables an action. -/
def Enabled : Action → Prop
  | .enter thread _ =>
    system.isRunning thread ∧ (system.enclosing thread).2.isUsable (system.enclosing thread).1
  | .enterIn thread parent _ =>
    system.isRunning thread ∧ parent < system.scopes.length ∧ system.isUsable parent
  | .reduce _ _ => True
  | .submit thread scope =>
    system.isRunning thread ∧ system.owns thread scope ∧ system.isUsable scope
  | .beginExit thread scope | .beginDrop thread scope =>
    system.isRunning thread ∧ system.owns thread scope
  | .leave thread => (system.leave? thread).isSome
  | .attach thread _ => system.isRunning thread
  | .detach thread => system.isRunning thread ∧ 0 < system.attachments thread
  | .acquire thread pool _ name =>
    system.isRunning thread ∧ pool < system.pools.length ∧ (system.pool pool).dropped = false ∧
      system.lease? thread name = none
  | .dropLease thread name | .dispatch thread name =>
    system.isRunning thread ∧ (system.lease? thread name).isSome
  | .passLease thread other name =>
    system.isRunning thread ∧ system.isRunning other ∧ thread ≠ other ∧
      (system.lease? thread name).isSome ∧ system.lease? other name = none
  | .free thread => system.isRunning thread ∧ (system.currentWork? thread).isSome
  | .endLogic thread _ => system.canEnd thread WorkKind.isLogic
  | .endJob thread => system.canEnd thread (!·.isLogic)
  | .vacate thread => system.isEnding thread .recorded
  | .complete thread => system.isEnding thread .vacated
  | .next station => system.hasEnded station fun _ => true
  | .die station => system.hasEnded station (!·.isLogic)
  | .makePool _ _ => True
  | .dropPool pool => pool < system.pools.length ∧ system.globalPool ≠ some pool
  | .bar _ _ => True
  | .makeRoot pool _ => pool < system.pools.length ∧ (system.pool pool).dropped = false
  | .makeFactory _ | .reroute .. | .register _ | .configure _ => True
  | .start thread _ _ => system.isRunning thread
  | .finish thread =>
    system.isRunning thread ∧ system.isBare thread ∧ system.currentWork? thread = none ∧
      (system.thread thread).activations.length = 1

instance (action : Action) : Decidable (system.Enabled action) :=
  match action with
  | .enter .. | .enterIn .. | .submit .. | .beginExit .. | .beginDrop .. | .detach .. | .acquire ..
  | .dropLease .. | .dispatch .. | .passLease .. | .free .. | .dropPool .. | .makeRoot ..
  | .finish .. => inferInstanceAs (Decidable (_ ∧ _))
  | .leave _ | .attach .. | .endLogic .. | .endJob _ | .vacate _ | .complete _ | .next _ | .die _
  | .start .. => inferInstanceAs (Decidable (_ = true))
  | .reduce .. | .makePool .. | .bar .. | .makeFactory _ | .reroute .. | .register _ | .configure _ =>
    inferInstanceAs (Decidable True)

/-! ## What an action does -/

def withCurrentWork (thread : ThreadId) (change : WorkId → System) : System :=
  (system.currentWork? thread).elim system change

/-- Acquires a lease for a program; without one nothing is kept. -/
def acquireFor (thread : ThreadId) (pool : PoolId) (limit : Nat) (name : String) : System :=
  match system.acquire pool limit with
  | (.ok (some lease), system) => system.keepLease thread name lease
  | (_, system) => system

/-- Takes a lease from a program and does something with it. -/
def withLease (thread : ThreadId) (name : String) (change : System → Lease → System) : System :=
  (system.lease? thread name).elim system (change (system.takeLease thread name))

/-- The helper of a slot, on its thread. -/
def withHelper (station : Lease) (change : ThreadId → System) : System :=
  match (system.station station).helper with
  | .idle thread | .busy thread _ => change thread
  | .absent => system

def startThread (thread : ThreadId) (name : String) (joined : Bool) : System :=
  let within := if joined then (system.activation thread).within else none
  (system.addThread { name, activations := [{ within }] }).2

def perform : Action → System
  | .enter thread tenure => (system.enter thread tenure).2
  | .enterIn thread parent tenure => (system.enterIn thread parent tenure).2
  | .reduce scope concurrency => system.reduceConcurrency scope concurrency
  | .submit thread scope => (system.submit thread scope).2
  | .beginExit thread scope => system.beginExit thread scope
  | .beginDrop thread scope => system.beginDrop thread scope
  | .leave thread => (system.leave? thread).elim system (·.2)
  | .attach thread snapshot => system.attach thread snapshot
  | .detach thread => system.detach thread
  | .acquire thread pool limit name => system.acquireFor thread pool limit name
  | .dropLease thread name => system.withLease thread name release
  | .passLease thread other name => system.withLease thread name (·.keepLease other name)
  | .dispatch thread name => system.withLease thread name fun system lease =>
      (system.dispatchJob thread lease).2
  | .free thread => system.withCurrentWork thread system.vacate
  | .endLogic thread outcome => system.withCurrentWork thread fun work =>
      (system.endProgram thread).recordOutcome work outcome (system.unwindsOn work outcome)
  | .endJob thread => system.withCurrentWork thread (system.endProgram thread).vacateAtEnd
  | .vacate thread => system.withCurrentWork thread system.vacateAtEnd
  | .complete thread => system.withCurrentWork thread fun work =>
      (system.completeWork work).popActivation thread
  | .next station => system.withHelper station fun thread => (system.helperNext thread station).2
  | .die station => system.withHelper station fun thread => (system.helperDies thread station).2
  | .makePool capacity config =>
    (system.addPool (Pool.ofConfig capacity config system.setting.stackBound)).2
  | .dropPool pool => system.shutdown pool
  | .bar station barred =>
    system.modifyPool station.pool (·.modifySlot station.slot ({ · with barred }))
  | .makeRoot pool concurrency => (system.newRoot pool concurrency).2
  | .makeFactory factory => (system.addFactory factory).2
  | .reroute factory source => system.reroute factory source
  | .register factory => (system.register factory).2
  | .configure setting => { system with setting }
  | .start thread name joined => system.startThread thread name joined
  | .finish thread => system.endThread thread

end System

/-! ## Runs -/

/-- An action and the process in which it was taken. -/
structure Moment where
  before : System
  action : Action

/-- What a run from a first process has come to; its history lists the moments, latest first. -/
inductive Reaches (first : System) : (history : List Moment) → System → Prop
  | start : Reaches first [] first
  | step {history : List Moment} {system : System} {action : Action} :
    Reaches first history system → system.Enabled action →
      Reaches first (⟨system, action⟩ :: history) (system.perform action)

namespace System

/-- A process that is about to begin: one thread with a program. -/
def initial (setting : Setting.State) : System :=
  { setting, threads := [{ name := "caller", activations := [{}] }] }

/-- Whether actions can be taken one after the other. -/
def allows (system : System) : List Action → Bool
  | [] => true
  | action :: rest => decide (system.Enabled action) && (system.perform action).allows rest

def performAll (system : System) (actions : List Action) : System :=
  actions.foldl perform system

/-- The moments at which actions are taken one after the other, latest first, before those of
`history`. -/
def moments (system : System) (history : List Moment) : List Action → List Moment
  | [] => history
  | action :: rest => (system.perform action).moments (⟨system, action⟩ :: history) rest

end System

theorem Reaches.performAll {first system : System} {history : List Moment}
    (reached : Reaches first history system) {actions : List Action}
    (allowed : system.allows actions = true) :
    Reaches first (system.moments history actions) (system.performAll actions) := by
  induction actions generalizing system history with
  | nil => exact reached
  | cons action rest ih =>
    simp only [System.allows, Bool.and_eq_true, decide_eq_true_eq] at allowed
    exact ih (reached.step allowed.1) allowed.2

end ScopedWork
