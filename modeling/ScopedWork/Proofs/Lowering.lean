import ScopedWork.Proofs.Limits

/-! # Lowering the concurrency of a scope at work

The concurrency of a scope says which slots its next logic may have. A logic that has a slot keeps it when
the concurrency falls, and the next logic may get a slot below the lower mark beside it. So the slots of a
scope keep to the concurrency that it had when the earliest of the logics that hold them was submitted, and
are more than its present concurrency only while a logic from before a reduction holds one.
-/

namespace ScopedWork

/-- Whether a logic was submitted, and given its number, at a moment. -/
structure Moment.Submits (moment : Moment) (scope : ScopeId) (work : WorkId) : Prop where
  action : ∃ thread, moment.action = .submit thread scope
  number : moment.before.works.length = work
  added : work < (moment.before.perform moment.action).works.length

/-- A run falls into what leads up to one of its moments and what leads on from there. -/
theorem Reaches.split {first system : System} {history : List Moment} {moment : Moment}
    (reached : Reaches first history system) (member : moment ∈ history) :
    moment.before.Enabled moment.action ∧ ∃ past since, Reaches first past moment.before ∧
      Reaches moment.before since system := by
  induction reached with
  | start => exact absurd member List.not_mem_nil
  | @step history system action reached enabled ih =>
    rcases List.mem_cons.mp member with rfl | earlier
    · exact ⟨enabled, history, _, reached, Reaches.start.step enabled⟩
    · obtain ⟨allowed, past, since, before, after⟩ := ih earlier
      exact ⟨allowed, past, _, before, after.step enabled⟩

namespace System

variable {system after : System} {scope : ScopeId} {lease : Lease} {work : WorkId} {setting : Setting.State}
  {history : List Moment} {events : List Event}

def slotsOf (system : System) (scope : ScopeId) : Finset Lease :=
  ((List.range system.works.length).filterMap fun work =>
    if (system.work work).kind = .logic scope then (system.work work).held else none).toFinset

theorem mem_slotsOf : lease ∈ system.slotsOf scope ↔
    ∃ work, (system.work work).kind = .logic scope ∧ (system.work work).held = some lease := by
  simp only [slotsOf, List.mem_toFinset, List.mem_filterMap, List.mem_range, Option.ite_none_right_eq_some]
  constructor
  · rintro ⟨work, -, kind, held⟩
    exact ⟨work, kind, held⟩
  · rintro ⟨work, kind, held⟩
    exact ⟨work, lt_of_station (Work.station_of_held held), kind, held⟩

/-! ## Where a logic got its slot -/

/-- A scope stays over its pool, and its concurrency only falls. -/
theorem Moves.old (moves : system.Moves after) (bound : scope < system.scopes.length) :
    (after.scope scope).pool = (system.scope scope).pool ∧
      (after.scope scope).concurrency ≤ (system.scope scope).concurrency := by
  induction moves with
  | refl => exact ⟨rfl, Nat.le_refl _⟩
  | tail moves move ih =>
    have there := Nat.lt_of_lt_of_le bound (Moves.length_le moves)
    obtain ⟨-, pool, fallen⟩ := move.old there
    exact ⟨pool.trans ih.1, Nat.le_trans fallen ih.2⟩

/-- Whoever submits a logic has a context of its scope. -/
theorem lt_of_submits (sound : system.picture.Sound events) {thread : ThreadId}
    (enabled : system.Enabled (.submit thread scope)) : scope < system.scopes.length := by
  obtain ⟨activation, others, top, -⟩ := innermost_of_isRunning enabled.1
  exact lt_of_isEntered (sound.tenancy.alone top.crew_eq (top.contexts_pos enabled.2.1)).1

/-- A logic with a slot was submitted at some moment, when the slot was one that its scope could use. -/
theorem submits_of_station (reached : Reaches (.initial setting) history system)
    (kind : (system.work work).kind = .logic scope) (place : (system.work work).station = some lease) :
    lease.pool = (system.scope scope).pool ∧
      ∃ moment ∈ history, moment.Submits scope work ∧ lease.slot < (moment.before.scope scope).concurrency := by
  induction reached with
  | start => exact absurd (lt_of_station place) (Nat.not_lt_zero work)
  | @step history system action reached enabled ih =>
    have sound := reached.sound
    have moves := moves_perform sound enabled
    by_cases old : work < system.works.length
    · have onward : (system.work work).Onward ((system.perform action).work work) :=
        (step_perform sound enabled).continues.kept work old
      have kind' := onward.kind.symm.trans kind
      obtain ⟨pool, moment, member, submits, below⟩ := ih kind' (onward.station.symm.trans place)
      exact ⟨pool.trans (moves.old (lt_of_logic sound kind')).1.symm, moment, List.mem_cons_of_mem _ member,
        submits, below⟩
    · obtain ⟨pool, below⟩ := station_of_new sound enabled (Nat.le_of_not_lt old) kind place
      have added := (step_perform sound enabled).added (lt_of_station place) (Nat.le_of_not_lt old)
      obtain ⟨thread, submits⟩ := Moment.submits_of_event (added.kind scope kind)
      change action = .submit thread scope at submits
      have existing := lt_of_submits sound (submits ▸ enabled)
      exact ⟨pool.trans (moves.old existing).1.symm, _, List.mem_cons_self,
        ⟨⟨thread, submits⟩, added.last.symm, lt_of_station place⟩, below⟩

/-- Since a moment at which a logic was submitted, the scope's logics have had slots that it could use then. -/
theorem below_of_submitted (reached : Reaches (.initial setting) history system) {moment : Moment}
    (member : moment ∈ history) {first : WorkId} (submits : moment.Submits scope first) (later : first ≤ work)
    (kind : (system.work work).kind = .logic scope) (place : (system.work work).station = some lease) :
    lease.pool = (moment.before.scope scope).pool ∧ lease.slot < (moment.before.scope scope).concurrency := by
  obtain ⟨enabled, past, since, before, continued⟩ := reached.split member
  obtain ⟨thread, action⟩ := submits.action
  have existing := lt_of_submits before.sound (action ▸ enabled)
  exact station_of_nestling before continued existing ⟨submits.number ▸ later, scope, kind, .refl⟩ place

end System

/-! ## Every run -/

/-- How the slots that logics of a scope hold keep to its concurrency. -/
structure KeepsSlots (history : List Moment) (system : System) (scope : ScopeId) : Prop where
  /-- The slot of a logic is one that its scope could use when the logic was submitted. -/
  submitted : ∀ work lease, (system.work work).kind = .logic scope → (system.work work).held = some lease →
    lease.pool = (system.scope scope).pool ∧
      ∃ moment ∈ history, moment.Submits scope work ∧ lease.slot < (moment.before.scope scope).concurrency
  /-- There are no more of them than the scope could use when the earliest of the logics was submitted. -/
  earliest : ∀ first, (∀ work, (system.work work).kind = .logic scope → (system.work work).held ≠ none →
    first ≤ work) →
    ∀ moment ∈ history, moment.Submits scope first →
      (system.slotsOf scope).card ≤ (moment.before.scope scope).concurrency
  /-- If they are more than the scope may use now, one of the logics was submitted when it could use more. -/
  lowered : (system.scope scope).concurrency < (system.slotsOf scope).card →
    ∃ work, (system.work work).kind = .logic scope ∧ (system.work work).held ≠ none ∧
      ∃ moment ∈ history, moment.Submits scope work ∧
        (system.scope scope).concurrency < (moment.before.scope scope).concurrency

/-- In every run, whatever is submitted and whenever the concurrency of a scope is lowered, its logics hold the
slots that they were given, and no more than it could use when the earliest of them was submitted. -/
theorem slots_kept {setting : Setting.State} {history : List Moment} {system : System}
    (reached : Reaches (.initial setting) history system) (scope : ScopeId) : KeepsSlots history system scope := by
  have earliest (first : WorkId)
      (least : ∀ work, (system.work work).kind = .logic scope → (system.work work).held ≠ none → first ≤ work)
      (moment : Moment) (member : moment ∈ history) (submits : moment.Submits scope first) :
      (system.slotsOf scope).card ≤ (moment.before.scope scope).concurrency := by
    apply System.card_le_of_below
    intro lease slot
    obtain ⟨work, kind, held⟩ := System.mem_slotsOf.mp slot
    have later := least work kind (by rw [held]; exact Option.some_ne_none lease)
    exact System.below_of_submitted reached member submits later kind (Work.station_of_held held)
  refine ⟨fun work lease kind held => System.submits_of_station reached kind (Work.station_of_held held), earliest,
    fun exceeded => ?_⟩
  -- the earliest of the logics that hold a slot
  obtain ⟨lease, slot⟩ := Finset.card_pos.mp (Nat.zero_lt_of_lt exceeded)
  obtain ⟨holder, kind, held⟩ := System.mem_slotsOf.mp slot
  let holds (work : WorkId) : Prop := (system.work work).kind = .logic scope ∧ (system.work work).held ≠ none
  have some_holds : ∃ work, holds work := ⟨holder, kind, by rw [held]; exact Option.some_ne_none lease⟩
  obtain ⟨kind, held⟩ : holds (Nat.find some_holds) := Nat.find_spec some_holds
  obtain ⟨lease, place⟩ := Option.ne_none_iff_exists'.mp held
  obtain ⟨-, moment, member, submits, -⟩ := System.submits_of_station reached kind (Work.station_of_held place)
  refine ⟨Nat.find some_holds, kind, held, moment, member, submits, Nat.lt_of_lt_of_le exceeded ?_⟩
  exact earliest _ (fun work kind held => Nat.find_min' some_holds ⟨kind, held⟩) moment member submits

/-- Two logics of a scope hold the two slots it may use; the first one ends, the scope is lowered to one slot, and a
third logic is submitted. -/
def loweredAtWork : List Action :=
  [.makePool 2 {}, .makeRoot 0 2, .enterIn 0 0 (.owned "c"), .submit 0 1, .submit 0 1, .endLogic 1 (.ok ()), .vacate 1,
    .complete 1, .reduce 1 1, .submit 0 1]

theorem slots_kept_loweredAtWork :
    let first := System.initial { hardware := 1 }
    let system := first.performAll loweredAtWork
    let history := first.moments [] loweredAtWork
    Reaches first history system ∧ KeepsSlots history system 1 := by
  have allowed : (System.initial { hardware := 1 }).allows loweredAtWork = true := by decide
  have reached := Reaches.start.performAll allowed
  exact ⟨reached, slots_kept reached 1⟩

/-- The third logic gets the first slot while the second logic has the other one. -/
theorem slots_exceed_loweredAtWork :
    let first := System.initial { hardware := 1 }
    let system := first.performAll loweredAtWork
    Reaches first (first.moments [] loweredAtWork) system ∧
      system.slotsOf 1 = {{ pool := 0, slot := 0 }, { pool := 0, slot := 1 }} ∧
      (system.scope 1).concurrency < (system.slotsOf 1).card := by
  have allowed : (System.initial { hardware := 1 }).allows loweredAtWork = true := by decide
  exact ⟨Reaches.start.performAll allowed, by decide, by decide⟩

end ScopedWork
