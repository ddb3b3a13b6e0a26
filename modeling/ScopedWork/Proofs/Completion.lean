import Mathlib.Logic.Relation
import ScopedWork.Proofs.Accounting

/-! # Nothing is left of what has been joined

Once a context has been left, by whatever way, its scope is closed and every logic of it is over, and
so is whatever those logics had entered. The count of a scope cannot reach the number of its
submissions before; and what is entered during a work is in the hands of someone who runs on that
work's behalf, of whom there is nobody left when the work is over.
-/

namespace ScopedWork

/-- Whether a context of a scope has been left in the course of a run, through its exit or by dropping it. -/
def HasBeenLeft (history : List Moment) (scope : ScopeId) : Prop :=
  ∃ moment ∈ history, ∃ thread departure, moment.action = .leave thread ∧
    (moment.before.activation thread).leaving = some (scope, departure)

theorem HasBeenLeft.event {history : List Moment} {scope : ScopeId} (left : HasBeenLeft history scope) :
    ∃ failed, .left scope failed ∈ history.map Moment.event := by
  obtain ⟨⟨before, action⟩, member, thread, departure, rfl, leaving⟩ := left
  refine ⟨(before.scope scope).firstFailure.isSome, List.mem_map.mpr ⟨_, member, ?_⟩⟩
  simp only [Moment.event, leaving]

/-- What is counted among the members of a crew is with one of them. -/
theorem exists_pos_of_sum {count : Activation → Nat} {crew : Multiset Activation}
    (pos : 0 < (crew.map count).sum) : ∃ activation ∈ crew, 0 < count activation := by
  by_contra missing
  push Not at missing
  have none_counted : (crew.map count).sum = 0 := Multiset.sum_eq_zero_iff.mpr fun one member => by
    obtain ⟨activation, inside, rfl⟩ := Multiset.mem_map.mp member
    exact Nat.le_zero.mp (missing activation inside)
  omega

theorem ScopeState.Moves.closed {after : ScopeState} (moves : closed.Moves after) : after = closed := by
  cases moves
  rfl

namespace Picture

variable {picture after : Picture} {events : List Event} {event : Event} {scope : ScopeId} {failed : Bool}

theorem Step.closes (step : picture.Step (.left scope failed) after) : (after.scope scope).state = .closed := by
  cases step with
  | leave =>
    change (Function.update picture.scope scope _ scope).state = _
    rw [Function.update_self]
    rfl

end Picture

namespace System

variable {system : System} {scope inner : ScopeId} {events : List Event}

/-- Whether a scope was entered during a logic of another. -/
def EnteredDuring (system : System) (scope inner : ScopeId) : Prop :=
  ∃ work, (system.work work).kind = .logic scope ∧ (system.scope inner).within = some work

/-- Nothing is left to be done for a scope. -/
structure Settled (system : System) (scope : ScopeId) : Prop where
  closed : (system.scope scope).state = .closed
  completed : (system.scope scope).completed = (system.scope scope).dispatched
  /-- Every logic submitted to the scope was placed. -/
  logics : system.works.countP (·.isOf scope) = (system.scope scope).dispatched
  finished : ∀ work, (system.work work).kind = .logic scope → (system.work work).phase = .over
  once : ∀ work, (system.work work).kind = .logic scope → ∃ thread, (system.work work).runs = [thread]
  /-- None of them has its lease still. -/
  vacated : ∀ work, (system.work work).kind = .logic scope → (system.work work).leased = false
  /-- A slot that is leased is leased to somebody else. -/
  slots : ∀ lease, (system.station lease).leased = true →
    (∃ activation ∈ system.crew, 0 < activation.holds lease) ∨
    ∃ work ∈ system.works, work.holds lease = true ∧ work.kind ≠ .logic scope

/-- All the logics of a closed scope are over. -/
theorem over_of_closed (sound : system.picture.Sound events) (closed : (system.scope scope).state = .closed) :
    ∀ work, (system.work work).kind = .logic scope → (system.work work).phase = .over := by
  intro work kind
  by_contra unfinished
  exact (sound.ledger scope).not_closed (Picture.works_getElem? (lt_of_kind kind)) kind
    (Work.isCounted_eq_false unfinished) closed

theorem Settled.of_closed (sound : system.picture.Sound events) (closed : (system.scope scope).state = .closed) :
    system.Settled scope := by
  have ledger : (system.scope scope).Balanced scope system.works events := sound.ledger scope
  have settled := ledger.settled closed
  rw [Scope.isSettled, decide_eq_true_eq] at settled
  have finished := over_of_closed sound closed
  have begun (work : WorkId) (kind : (system.work work).kind = .logic scope) :
      (system.work work).phase.hasBegun = true := by rw [finished work kind]; rfl
  have vacated (work : WorkId) (kind : (system.work work).kind = .logic scope) : (system.work work).leased = false :=
    sound.leasing.spent work (congrArg WorkPhase.isSpent (finished work kind))
  constructor
  case closed => exact closed
  case completed => exact Nat.le_antisymm ledger.completed_le settled
  case logics =>
    have weaker : (system.works.countP fun work => work.isOf scope && work.isCounted) ≤
        system.works.countP (·.isOf scope) :=
      List.countP_mono_left fun work _ both => (Bool.and_eq_true_iff.mp both).1
    have counted := ledger.counted
    have completed := ledger.completed
    omega
  case finished => exact finished
  case once =>
    intro work kind
    rcases sound.channels.begun work (begun work kind) with ⟨helper, -, runs⟩ | ⟨-, runs⟩
    · exact ⟨helper, runs⟩
    · exact ⟨_, runs⟩
  case vacated => exact vacated
  case slots =>
    intro lease leased
    have single := sound.leasing.single lease
    rw [show (system.picture.station lease).leased = true from leased, if_neg (by simp)] at single
    by_cases held : 0 < (system.crew.map (·.holds lease)).sum
    · exact .inl (exists_pos_of_sum held)
    · right
      have some_work : 0 < system.works.countP (·.holds lease) := by
        change (system.crew.map (·.holds lease)).sum + system.works.countP (·.holds lease) + 0 = _ at single
        rw [Bool.toNat_true] at single
        omega
      obtain ⟨work, member, holds⟩ := List.countP_pos_iff.mp some_work
      refine ⟨work, member, holds, fun kind => ?_⟩
      obtain ⟨id, present⟩ := List.mem_iff_getElem?.mp member
      have same : system.work id = work := by rw [System.work, present, Option.getD_some]
      have unleased : work.leased = false := same ▸ vacated id (same ▸ kind)
      rw [Work.holds, unleased] at holds
      exact absurd holds Bool.false_ne_true

/-- What was entered during a logic that is over has been left. -/
theorem closed_of_entered (sound : system.picture.Sound events) (entered : system.EnteredDuring scope inner)
    (finished : ∀ work, (system.work work).kind = .logic scope → (system.work work).phase = .over) :
    (system.scope inner).state = .closed := by
  obtain ⟨work, kind, within⟩ := entered
  by_contra open_yet
  have nested : (system.scope inner).parent ≠ none := fun root => by
    rw [show (system.scope inner).within = none from sound.tenancy.nested inner root] at within
    exact absurd within (by simp)
  have in_use : (system.picture.scope inner).isEntered = true := by
    rw [Scope.isEntered, Bool.and_eq_true, Option.isSome_iff_ne_none, bne_iff_ne]
    exact ⟨nested, open_yet⟩
  have held := sound.tenancy.held inner
  rw [in_use, Bool.toNat_true] at held
  obtain ⟨activation, member, owned⟩ := exists_pos_of_sum (by rw [held]; exact Nat.one_pos)
  obtain ⟨handle, has, rfl⟩ := Activation.contexts_pos.mp owned
  have behalf : activation.within = some work := (sound.tenancy.within activation member handle has).symm.trans within
  have ended : (system.picture.work work).phase = .over := finished work kind
  rcases sound.running.inside activation member work behalf with phase | ⟨-, -, active⟩
  · rw [ended] at phase
    exact absurd phase (by decide)
  · rw [ended] at active
    exact absurd active (by decide)

end System

/-- A scope of which a context has been left is closed, and stays so. -/
theorem Reaches.closed_of_left {setting : Setting.State} {history : List Moment} {system : System}
    (reached : Reaches (.initial setting) history system) {scope : ScopeId} {failed : Bool}
    (left : .left scope failed ∈ history.map Moment.event) : (system.scope scope).state = .closed := by
  induction reached with
  | start => exact absurd left List.not_mem_nil
  | @step history system action reached enabled ih =>
    have step := System.step_perform reached.sound enabled
    rw [List.map_cons, List.mem_cons] at left
    rcases left with now | before
    · rw [← now] at step
      exact step.closes
    · have moves := step.moves reached.sound.tenancy scope
      rw [show (system.picture.scope scope).state = .closed from ih before] at moves
      exact moves.closed

/-- Once a context of a scope has been left, nothing is left to be done for the scope, nor for any that
its logics have entered, nor for any that the logics of those have entered, and so on. -/
theorem structured_completion {setting : Setting.State} {history : List Moment} {system : System}
    (reached : Reaches (.initial setting) history system) {scope inner : ScopeId}
    (left : HasBeenLeft history scope) (entered : Relation.ReflTransGen system.EnteredDuring scope inner) :
    system.Settled inner := by
  obtain ⟨failed, left⟩ := left.event
  have closed : (system.scope inner).state = .closed := by
    induction entered with
    | refl => exact reached.closed_of_left left
    | tail _ entered ih =>
      exact System.closed_of_entered reached.sound entered (System.over_of_closed reached.sound ih)
  exact .of_closed reached.sound closed

theorem structured_completion_nestedFailures :
    let first := System.initial { hardware := 1 }
    let system := first.performAll nestedFailures
    Reaches first (first.moments [] nestedFailures) system ∧ HasBeenLeft (first.moments [] nestedFailures) 1 ∧
      system.EnteredDuring 1 2 ∧ system.Settled 2 := by
  have allowed : (System.initial { hardware := 1 }).allows nestedFailures = true := by decide
  have reached := Reaches.start.performAll allowed
  have left : HasBeenLeft ((System.initial { hardware := 1 }).moments [] nestedFailures) 1 :=
    ⟨_, List.mem_cons_self, 0, .drop, rfl, by decide⟩
  have entered : ((System.initial { hardware := 1 }).performAll nestedFailures).EnteredDuring 1 2 :=
    ⟨1, by decide, by decide⟩
  exact ⟨reached, left, entered, structured_completion reached left (.single entered)⟩

end ScopedWork
