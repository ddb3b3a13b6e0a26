import ScopedWork.Proofs.Crew

/-! # What the rules of accounting see of a process

A *picture* of a process keeps its scopes, its works, what its threads run, and its slots, and leaves
out names, stacks and settings. `Picture.Step` says once what each action can do to the picture; the
rules for contexts, works, leases and channels are then checked against these steps and not against
the program text.
-/

namespace ScopedWork

/-- What the rules of accounting see of a process. -/
@[ext] structure Picture where
  scope : ScopeId → Scope
  works : List Work
  crew : Multiset Activation
  station : Lease → Slot WorkId
  /-- Whether a pool has been dropped. -/
  dropped : PoolId → Bool
  /-- How many threads have been started. -/
  threads : Nat

def System.picture (system : System) : Picture where
  scope := system.scope
  works := system.works
  crew := system.crew
  station := system.station
  dropped pool := (system.pool pool).dropped
  threads := system.threads.length

/-- A scope that differs from another at most in its pool and its concurrency. -/
def Scope.Alike (scope other : Scope) : Prop :=
  ∃ pool concurrency, other = { scope with pool, concurrency }

/-- A slot that differs from another at most in whether the system refuses it a thread. -/
def Slot.Alike {Job : Type} (slot other : Slot Job) : Prop :=
  ∃ barred, other = { slot with barred }

/-- What the rules of accounting remember of a step. -/
inductive Event where
  /-- A logic was submitted to a scope; `cutShort` if a panic came before it was placed. -/
  | submitted (scope : ScopeId) (cutShort : Bool)
  /-- A context of a scope was left; `failed` if its first failure was handed out. -/
  | left (scope : ScopeId) (failed : Bool)
  /-- A helper died, and the work in its channel, if any, was lost. -/
  | died (lost : Option WorkId)
  | other
  deriving DecidableEq

/-- What is remembered of a moment. -/
def Moment.event (moment : Moment) : Event :=
  match moment.action with
  | .submit thread scope => .submitted scope (match (moment.before.submit thread scope).1 with
    | .ok _ => false
    | .error _ => true)
  | .leave thread => match (moment.before.activation thread).leaving with
    | some (scope, _) => .left scope (moment.before.scope scope).firstFailure.isSome
    | none => .other
  | .die station => .died (moment.before.station station).waiting
  | _ => .other

def Activation.contexts (activation : Activation) (scope : ScopeId) : Nat :=
  activation.handles.countP (·.scope == scope)

def Activation.holds (activation : Activation) (lease : Lease) : Nat :=
  activation.leases.countP (·.2 == lease)

def Work.holds (work : Work) (lease : Lease) : Bool :=
  work.leased && work.station == some lease

/-- Whether a work has begun and is not over. -/
def WorkPhase.isActive : WorkPhase → Bool
  | running | recorded | vacated => true
  | waiting | .over | discarded => false

def WorkPhase.hasBegun : WorkPhase → Bool
  | running | recorded | vacated | .over => true
  | waiting | discarded => false

/-- Whether a work has no more use for a lease. -/
def WorkPhase.isSpent : WorkPhase → Bool
  | vacated | .over | discarded => true
  | waiting | running | recorded => false

/-- A logic that its submitter runs for want of a lease. -/
def inlineLogic (scope : ScopeId) (submitter : ThreadId) (within : Option WorkId) : Work :=
  { kind := .logic scope, submitter, within, placement := .inline, station := none, leased := false }

/-- A work that is to be sent through a lease. -/
def pooledWork (kind : WorkKind) (submitter : ThreadId) (within : Option WorkId) (lease : Lease)
    (snapshot : Option Stack) : Work :=
  { kind, submitter, within, placement := .queued, station := some lease, leased := true, snapshot }

/-- Whether two activations run the same, with the same contexts and leases. -/
structure Activation.Alike (activation other : Activation) : Prop where
  role : other.role = activation.role
  within : other.within = activation.within
  handles : other.handles = activation.handles
  leases : other.leases = activation.leases
  leaving : other.leaving = activation.leaving

namespace Picture

def work (picture : Picture) (id : WorkId) : Work :=
  picture.works[id]?.getD default

def modifyScope (picture : Picture) (scope : ScopeId) (change : Scope → Scope) : Picture :=
  { picture with scope := Function.update picture.scope scope (change (picture.scope scope)) }

def modifyWork (picture : Picture) (work : WorkId) (change : Work → Work) : Picture :=
  { picture with works := picture.works.modify work change }

def modifyStation (picture : Picture) (lease : Lease) (change : Slot WorkId → Slot WorkId) : Picture :=
  { picture with station := Function.update picture.station lease (change (picture.station lease)) }

def withCrew (picture : Picture) (crew : Multiset Activation) : Picture :=
  { picture with crew }

def addWork (picture : Picture) (work : Work) : Picture :=
  { picture with works := picture.works ++ [work] }

/-- Two changes of one slot are one. -/
theorem modifyStation_modifyStation (picture : Picture) (lease : Lease) (first second : Slot WorkId → Slot WorkId) :
    (picture.modifyStation lease first).modifyStation lease second =
      picture.modifyStation lease (second ∘ first) := by
  simp only [modifyStation, Function.update_self, Function.update_idem, Function.comp_apply]

/-- Two changes of one scope are one. -/
theorem modifyScope_modifyScope (picture : Picture) (scope : ScopeId) (first second : Scope → Scope) :
    (picture.modifyScope scope first).modifyScope scope second = picture.modifyScope scope (second ∘ first) := by
  simp only [modifyScope, Function.update_self, Function.update_idem, Function.comp_apply]

theorem work_modifyWork (picture : Picture) (id other : WorkId) (change : Work → Work) :
    (picture.modifyWork id change).work other =
      if other = id ∧ id < picture.works.length then change (picture.work other) else picture.work other :=
  read_modify picture.works id other change

theorem work_addWork (picture : Picture) (work : Work) (other : WorkId) :
    (picture.addWork work).work other = if other = picture.works.length then work else picture.work other :=
  read_append picture.works work other

theorem work_of_not_lt {picture : Picture} {id : WorkId} (beyond : ¬ id < picture.works.length) :
    picture.work id = default := by
  rw [work, List.getElem?_eq_none (Nat.le_of_not_lt beyond), Option.getD_none]

theorem works_getElem? {picture : Picture} {id : WorkId} (bound : id < picture.works.length) :
    picture.works[id]? = some (picture.work id) := by
  rw [work, List.getElem?_eq_getElem bound, Option.getD_some]

/-- An activation in the midst of its program: it leaves no context, and its work has not ended. -/
structure IsRunning (picture : Picture) (activation : Activation) : Prop where
  staying : activation.leaving = none
  running : ∀ work, activation.role = .work work → (picture.work work).phase = .running

/-- A work waits in the channel of a slot, whose lease it holds. -/
structure Waits (picture : Picture) (station : Lease) (work : WorkId) : Prop where
  slot : (picture.station station).waiting = some work
  bound : work < picture.works.length
  phase : (picture.work work).phase = .waiting
  leased : (picture.work work).leased = true
  place : (picture.work work).station = some station

/-- A quiet step touches no context, no work, no lease and no helper. -/
inductive Quiet (picture : Picture) : Picture → Prop
  | intro {scope : ScopeId → Scope} {station : Lease → Slot WorkId}
    (scopes : ∀ id, (picture.scope id).Alike (scope id))
    (slots : ∀ lease, (picture.station lease).Alike (station lease)) :
    Quiet picture { picture with scope, station }

/-- A free slot is leased; its helper is connected, or is started first. -/
inductive Granted (picture : Picture) (lease : Lease) : Picture → Prop
  | connected (free : (picture.station lease).leased = false)
    (connected : (picture.station lease).sender = true) :
    Granted picture lease (picture.modifyStation lease ({ · with leased := true }))
  | started (free : (picture.station lease).leased = false)
    (cold : (picture.station lease).sender = false) :
    Granted picture lease
      { picture.modifyStation lease ({ · with
          leased := true, sender := true, helper := .idle picture.threads }) with
        threads := picture.threads + 1 }

/-- To lease a slot is to change no scope. -/
theorem Granted.modifyScope {picture after : Picture} {lease : Lease} (granted : picture.Granted lease after)
    (scope : ScopeId) (change : Scope → Scope) :
    (picture.modifyScope scope change).Granted lease (after.modifyScope scope change) := by
  cases granted with
  | connected free connected => exact .connected free connected
  | started free cold => exact .started free cold

theorem Granted.threads_le {picture after : Picture} {lease : Lease} (granted : picture.Granted lease after) :
    picture.threads ≤ after.threads := by
  cases granted with
  | connected => exact Nat.le_refl _
  | started => exact Nat.le_succ _

/-- A new work is sent through a lease: to the one who sends it if the helper is gone, to the helper
if it is idle, and into the channel otherwise. -/
inductive Sent (picture : Picture) (thread : ThreadId) (lease : Lease) (work : Work) : Picture → Prop
  | returned (saved : List Stack)
    (gone : (picture.station lease).sender = false ∨ (picture.station lease).helper = .absent) :
    Sent picture thread lease work
      (((picture.modifyStation lease ({ · with sender := false })).addWork { work with
        phase := .running, snapshot := none, runs := thread :: work.runs, placement := .returned }).withCrew
          (begun picture.works.length saved ::ₘ picture.crew))
  | begun (helper : ThreadId) (saved : List Stack) (idle : (picture.station lease).helper = .idle helper) :
    Sent picture thread lease work
      (((picture.modifyStation lease ({ · with helper := .busy helper picture.works.length })).addWork { work with
        phase := .running, snapshot := none, runs := helper :: work.runs, placement := .helper helper }).withCrew
          (ScopedWork.begun picture.works.length saved ::ₘ picture.crew))
  | queued (helper : ThreadId) (job : WorkId) (busy : (picture.station lease).helper = .busy helper job)
    (room : (picture.station lease).waiting = none) :
    Sent picture thread lease work
      ((picture.modifyStation lease ({ · with waiting := some picture.works.length })).addWork
        { work with placement := .queued })

/-- A work gives up its lease if it has one. -/
inductive Vacated (picture : Picture) (work : WorkId) : Picture → Prop
  | held (lease : Lease) (held : (picture.work work).holds lease = true) :
    Vacated picture work ((picture.modifyStation lease ({ · with leased := false })).modifyWork work
      ({ · with leased := false }))
  | bare (bare : ∀ lease, (picture.work work).holds lease = false) :
    Vacated picture work (picture.modifyWork work ({ · with leased := false }))

/-- A logic is counted as over by its scope, unless its end was unwound, and a job by nobody. -/
def count (picture : Picture) (work : WorkId) : Picture :=
  match (picture.work work).kind with
  | .logic scope => picture.modifyScope scope (·.countOver (picture.work work).unwound)
  | .job => picture

/-- What a step can do to a picture. -/
inductive Step (picture : Picture) : Event → Picture → Prop
  | quiet {after : Picture} (quiet : picture.Quiet after) : Step picture .other after
  -- contexts
  | enter {middle : Picture} {activation : Activation} {others : Multiset Activation} {scope parent : ScopeId}
    {tenure : Tenure} (quiet : picture.Quiet middle) (top : picture.crew = activation ::ₘ others)
    (running : picture.IsRunning activation) (fresh : middle.scope scope = default) :
    Step picture .other
      ((middle.modifyScope scope fun _ => (middle.scope parent).child parent activation.within).withCrew
        ({ activation with handles := { scope, tenure } :: activation.handles } ::ₘ others))
  | drain {activation : Activation} {others : Multiset Activation} {scope : ScopeId} (departure : Departure)
    (top : picture.crew = activation ::ₘ others) (running : picture.IsRunning activation)
    (owned : 0 < activation.contexts scope) :
    Step picture .other ((picture.modifyScope scope Scope.drain).withCrew
      ({ activation with leaving := some (scope, departure) } ::ₘ others))
  | leave {activation : Activation} {others : Multiset Activation} {scope : ScopeId} {departure : Departure}
    (top : picture.crew = activation ::ₘ others) (leaving : activation.leaving = some (scope, departure))
    (settled : (picture.scope scope).isSettled = true) :
    Step picture (.left scope (picture.scope scope).firstFailure.isSome)
      ((picture.modifyScope scope (·.close.2)).withCrew ({ activation with
        handles := activation.handles.filter (·.scope ≠ scope), leaving := none } ::ₘ others))
  | shift {activation other : Activation} {others : Multiset Activation}
    (top : picture.crew = activation ::ₘ others) (alike : activation.Alike other) :
    Step picture .other (picture.withCrew (other ::ₘ others))
  -- leases and jobs
  | acquire {after : Picture} {activation : Activation} {others : Multiset Activation} {lease : Lease}
    {name : String} (top : picture.crew = activation ::ₘ others) (running : picture.IsRunning activation)
    (usable : picture.dropped lease.pool = false) (new : activation.leases.lookup name = none)
    (granted : picture.Granted lease after) :
    Step picture .other (after.withCrew
      ({ activation with leases := (name, lease) :: activation.leases } ::ₘ others))
  | dropLease {activation : Activation} {others : Multiset Activation} {lease : Lease} {name : String}
    (top : picture.crew = activation ::ₘ others) (held : activation.leases.lookup name = some lease) :
    Step picture .other ((picture.modifyStation lease ({ · with leased := false })).withCrew
      ({ activation with leases := activation.leases.filter (·.1 ≠ name) } ::ₘ others))
  | passLease {activation other : Activation} {others : Multiset Activation} {lease : Lease} {name : String}
    (top : picture.crew = activation ::ₘ other ::ₘ others)
    (held : activation.leases.lookup name = some lease) (running : picture.IsRunning other)
    (new : other.leases.lookup name = none) :
    Step picture .other (picture.withCrew
      ({ activation with leases := activation.leases.filter (·.1 ≠ name) } ::ₘ
        { other with leases := (name, lease) :: other.leases } ::ₘ others))
  | dispatch {after : Picture} {activation : Activation} {others : Multiset Activation} {lease : Lease}
    {name : String} {thread : ThreadId} (top : picture.crew = activation ::ₘ others)
    (running : picture.IsRunning activation) (held : activation.leases.lookup name = some lease)
    (sent : (picture.withCrew
      ({ activation with leases := activation.leases.filter (·.1 ≠ name) } ::ₘ others)).Sent thread lease
        (pooledWork .job thread activation.within lease none) after) :
    Step picture .other after
  -- logics
  | submitCutShort {activation : Activation} {others : Multiset Activation} {scope : ScopeId}
    (top : picture.crew = activation ::ₘ others) (running : picture.IsRunning activation)
    (owned : 0 < activation.contexts scope) :
    Step picture (.submitted scope true) (picture.modifyScope scope Scope.countDispatched)
  | submitInline {activation : Activation} {others : Multiset Activation} {scope : ScopeId}
    {thread : ThreadId} (top : picture.crew = activation ::ₘ others) (running : picture.IsRunning activation)
    (owned : 0 < activation.contexts scope) :
    Step picture (.submitted scope false)
      (((picture.modifyScope scope (·.countDispatched.countInlined)).addWork
        { inlineLogic scope thread activation.within with phase := .running, runs := [thread] }).withCrew
          (begun picture.works.length [] ::ₘ picture.crew))
  | submitPooled {leased after : Picture} {activation : Activation} {others : Multiset Activation}
    {scope : ScopeId} {thread : ThreadId} {lease : Lease} {snapshot : Stack}
    (top : picture.crew = activation ::ₘ others) (running : picture.IsRunning activation)
    (owned : 0 < activation.contexts scope) (usable : picture.dropped lease.pool = false)
    (granted : (picture.modifyScope scope (·.countDispatched.countPooled)).Granted lease leased)
    (sent : leased.Sent thread lease
      (pooledWork (.logic scope) thread activation.within lease (some snapshot)) after) :
    Step picture (.submitted scope false) after
  -- the end of a work
  | free {after : Picture} {activation : Activation} {others : Multiset Activation} {work : WorkId}
    (top : picture.crew = activation ::ₘ others) (running : picture.IsRunning activation)
    (role : activation.role = .work work) (vacated : picture.Vacated work after) :
    Step picture .other after
  | endLogic {activation : Activation} {others : Multiset Activation} {work : WorkId} {scope : ScopeId}
    (outcome : Except Failure.TaskError Unit) (saved : List Stack)
    (top : picture.crew = activation ::ₘ others) (running : picture.IsRunning activation)
    (role : activation.role = .work work) (kind : (picture.work work).kind = .logic scope)
    (bare : activation.handles = [] ∧ activation.leases = [])
    (joined : ∀ other ∈ picture.crew, other.within = some work → other.role = .work work) :
    Step picture .other
      (((picture.modifyScope scope (·.record outcome)).modifyWork work ({ · with
          phase := .recorded, failed := !outcome.isOk
          unwound := (picture.scope scope).unwindsOn outcome })).withCrew ({ activation with saved } ::ₘ others))
  | endJob {after : Picture} {activation : Activation} {others : Multiset Activation} {work : WorkId}
    (saved : List Stack) (top : picture.crew = activation ::ₘ others) (running : picture.IsRunning activation)
    (role : activation.role = .work work) (kind : (picture.work work).kind = .job)
    (bare : activation.handles = [] ∧ activation.leases = [])
    (joined : ∀ other ∈ picture.crew, other.within = some work → other.role = .work work)
    (vacated : (picture.withCrew ({ activation with saved } ::ₘ others)).Vacated work after) :
    Step picture .other (after.modifyWork work ({ · with phase := .vacated }))
  | vacate {after : Picture} {work : WorkId} (recorded : (picture.work work).phase = .recorded)
    (vacated : picture.Vacated work after) :
    Step picture .other (after.modifyWork work ({ · with phase := .vacated }))
  | complete {activation : Activation} {others : Multiset Activation} {work : WorkId}
    (top : picture.crew = activation ::ₘ others) (role : activation.role = .work work)
    (vacated : (picture.work work).phase = .vacated) :
    Step picture .other (((picture.count work).modifyWork work ({ · with phase := .over })).withCrew others)
  -- helpers
  | rest {station : Lease} {helper : ThreadId} {job : WorkId}
    (busy : (picture.station station).helper = .busy helper job) (finished : (picture.work job).phase = .over)
    (empty : (picture.station station).waiting = none) :
    Step picture .other (picture.modifyStation station fun slot =>
      { slot with helper := if slot.sender then .idle helper else .absent })
  | next {station : Lease} {helper : ThreadId} {job next : WorkId} (saved : List Stack)
    (busy : (picture.station station).helper = .busy helper job) (finished : (picture.work job).phase = .over)
    (waiting : picture.Waits station next) :
    Step picture .other
      (((picture.modifyStation station ({ · with helper := .busy helper next, waiting := none })).modifyWork next
        fun work => { work with
          phase := .running, snapshot := none, runs := helper :: work.runs, placement := .helper helper }).withCrew
            (begun next saved ::ₘ picture.crew))
  | dieAlone {station : Lease} {helper : ThreadId} {job : WorkId}
    (busy : (picture.station station).helper = .busy helper job) (finished : (picture.work job).phase = .over)
    (empty : (picture.station station).waiting = none) :
    Step picture (.died none) (picture.modifyStation station ({ · with helper := .absent }))
  | die {station : Lease} {helper : ThreadId} {job lost : WorkId}
    (busy : (picture.station station).helper = .busy helper job) (finished : (picture.work job).phase = .over)
    (waiting : picture.Waits station lost) :
    Step picture (.died (some lost))
      ((picture.modifyStation station ({ · with leased := false, helper := .absent, waiting := none })).modifyWork lost
        ({ · with leased := false, phase := .discarded, snapshot := none }))
  -- the outside
  | dropPool (pool : PoolId) :
    Step picture .other { picture with
      station := fun lease => if lease.pool = pool then (picture.station lease).cut else picture.station lease
      dropped := Function.update picture.dropped pool true }
  | start {activation : Activation} {others : Multiset Activation} {within : Option WorkId}
    (top : picture.crew = activation ::ₘ others) (running : picture.IsRunning activation)
    (inside : within = none ∨ within = activation.within) :
    Step picture .other { picture with crew := { within } ::ₘ picture.crew, threads := picture.threads + 1 }
  | finish {activation : Activation} {others : Multiset Activation}
    (top : picture.crew = activation ::ₘ others) (running : picture.IsRunning activation)
    (bare : activation.handles = [] ∧ activation.leases = []) (role : activation.role = .program) :
    Step picture .other (picture.withCrew others)

end Picture

end ScopedWork
