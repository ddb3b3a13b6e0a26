import Mathlib.Data.Finset.Card
import Mathlib.Order.Interval.Finset.Nat
import ScopedWork.Proofs.Exclusivity
import ScopedWork.Proofs.Inheritance
import ScopedWork.Proofs.Works

/-! # A limit bounds a whole nest of scopes

The slot of a logic is the least free one below its scope's concurrency at the moment of submission.
That never exceeds what an enclosing scope allowed when the nest began to grow, so the logics of the
nest share as many slots as the enclosing scope had then; with none they all run where they were
submitted.
-/

namespace ScopedWork

namespace System

variable {system after : System} {scope : ScopeId} {lease : Lease}

/-! ## The slots of new logics -/

theorem leastFree?_lt {Job : Type} {pool : Pool Job} {bound index : Nat} (found : pool.leastFree? bound = some index) :
    index < bound := by
  obtain ⟨within, -, -⟩ := List.findIdx?_eq_some_iff_getElem.mp found
  rw [List.length_take] at within
  exact Nat.lt_of_lt_of_le within (Nat.min_le_left _ _)

/-- A lease that is had is one of the pool that was asked for, of a slot below the limit. -/
theorem lease_of_acquire {pool : PoolId} {limit : Nat} (had : system.acquire pool limit = (.ok (some lease), after)) :
    lease.pool = pool ∧ lease.slot < limit := by
  have told := acquire_fst system pool limit
  rw [had] at told
  rcases (system.pool pool).tryAcquire_shapes limit system.threads.length with ⟨-, missed⟩
    | ⟨index, found, granted⟩
  · rcases asked : ((system.pool pool).tryAcquire limit system.threads.length).1 with payload | _ | acquired
    · simp [asked, Except.map] at told
    · simp [asked, Except.map] at told
    · exact absurd asked (missed acquired)
  · have same : lease = { pool, slot := index } := by
      rcases granted with ⟨-, granted⟩ | ⟨-, -, granted⟩ <;> simpa [granted, Except.map] using told
    rw [same]
    exact ⟨rfl, leastFree?_lt found⟩

/-- A work keeps its kind and its station while it is handed over. -/
theorem station_handOver (thread : ThreadId) (lease : Lease) (work other : WorkId) (snapshot : Option Stack) :
    ((system.handOver thread lease work snapshot).2.work other).station = (system.work other).station := by
  have begins {before : System} (runner : ThreadId) :
      ((before.beginWork runner work snapshot).work other).station = (before.work other).station := by
    rw [beginWork_eq]
    exact field_modifyWork before work other Work.station fun _ => rfl
  rw [handOver]
  dsimp only
  refine (field_modifyWork _ work other Work.station (by exact fun _ => rfl)).trans ?_
  split
  · exact begins thread
  · exact begins _
  · rfl
  · rfl

/-- The slot of a logic is one that its scope may use. -/
theorem station_submit (thread : ThreadId)
    (place : ((system.submit thread scope).2.work system.works.length).station = some lease) :
    lease.pool = (system.scope scope).pool ∧ lease.slot < (system.scope scope).concurrency := by
  have added (before : System) (works : before.works = system.works) (work : Work) :
      (before.addWork work).2.work system.works.length = work := by
    rw [work_of_append (by rfl : (before.addWork work).2.works = before.works ++ [work]), works, if_pos rfl]
  rcases submit_cases system thread scope with ⟨payload, cut⟩ | inline
    | ⟨found, granted, had, -, -, -, works, sent⟩
  · rw [cut] at place
    change (system.work system.works.length).station = some lease at place
    rw [work_of_not_lt system (Nat.lt_irrefl _)] at place
    exact absurd place.symm (Option.some_ne_none lease)
  · rw [inline] at place
    dsimp only at place
    rw [beginWork_eq] at place
    change (((_ : System).modifyWork _ _).work _).station = _ at place
    rw [field_modifyWork _ _ _ Work.station (by exact fun _ => rfl), added _ (by rfl)] at place
    exact absurd place.symm (Option.some_ne_none lease)
  · rw [sent] at place
    dsimp only at place
    rw [station_handOver, added (granted.modifyScope scope Scope.countPooled) works] at place
    obtain rfl := Option.some.inj place
    exact lease_of_acquire had

/-! ## The logics of a nest -/

/-- Whether a work was submitted, since there were `works` works and `scopes` scopes, to a scope or to one
that has been entered in its nest since. -/
def IsNestling (system : System) (works scopes : Nat) (scope : ScopeId) (work : WorkId) : Prop :=
  works ≤ work ∧ ∃ inner, (system.work work).kind = .logic inner ∧ system.NestedSince scopes scope inner

variable {before : System} {past history : List Moment} {setting : Setting.State} {work : WorkId}

theorem lt_of_station (place : (system.work work).station = some lease) : work < system.works.length :=
  lt_of_work (p := fun work => work.station = some lease) place (Option.some_ne_none lease).symm

/-- A logic that is new after an action has a slot that its scope could use then. -/
theorem station_of_new {events : List Event} (sound : system.picture.Sound events) {action : Action}
    (enabled : system.Enabled action) (beyond : system.works.length ≤ work)
    (kind : ((system.perform action).work work).kind = .logic scope)
    (place : ((system.perform action).work work).station = some lease) :
    lease.pool = (system.scope scope).pool ∧ lease.slot < (system.scope scope).concurrency := by
  have added := (step_perform sound enabled).added (lt_of_station place) beyond
  obtain ⟨thread, submits⟩ := Moment.submits_of_event (added.kind scope kind)
  change action = .submit thread scope at submits
  obtain rfl := added.last
  rw [submits] at place
  exact station_submit thread place

/-- A logic of a stray has no slot. -/
theorem not_stray_of_station (reached : Reaches (.initial setting) past system)
    (kind : (system.work work).kind = .logic scope) (place : (system.work work).station = some lease) :
    ¬ system.Stray scope := by
  induction reached with
  | start => exact absurd (lt_of_station place) (Nat.not_lt_zero work)
  | @step history system action reached enabled ih =>
    intro stray
    have sound := reached.sound
    by_cases old : work < system.works.length
    · have onward : (system.work work).Onward ((system.perform action).work work) :=
        (step_perform sound enabled).continues.kept work old
      have kind' := onward.kind.symm.trans kind
      exact ih kind' (onward.station.symm.trans place)
        (stray_moves (moves_perform sound enabled) (lt_of_logic sound kind') stray)
    · obtain ⟨-, below⟩ := station_of_new sound enabled (Nat.le_of_not_lt old) kind place
      have existing : scope < system.scopes.length := by
        by_contra beyond
        rw [scope_of_not_lt system beyond] at below
        exact Nat.not_lt_zero _ below
      rw [reached.bounded.stray scope (stray_moves (moves_perform sound enabled) existing stray)] at below
      exact Nat.not_lt_zero _ below

/-- The slots of a nest are those that its outermost scope could use when the nest began to grow. -/
theorem station_of_nestling (reached : Reaches (.initial setting) past before)
    (continued : Reaches before history system) (existing : scope < before.scopes.length)
    (nestling : system.IsNestling before.works.length before.scopes.length scope work)
    (place : (system.work work).station = some lease) :
    lease.pool = (before.scope scope).pool ∧ lease.slot < (before.scope scope).concurrency := by
  induction continued with
  | start => exact absurd (lt_of_station place) (Nat.not_lt.mpr nestling.1)
  | @step history system action continued enabled ih =>
    obtain ⟨since, inner, kind, nested⟩ := nestling
    have here := reached.trans continued
    have sound := here.sound
    have moves := moves_perform sound enabled
    by_cases old : work < system.works.length
    · have onward : (system.work work).Onward ((system.perform action).work work) :=
        (step_perform sound enabled).continues.kept work old
      have kind' := onward.kind.symm.trans kind
      have place' := onward.station.symm.trans place
      rcases nestedSince_moves moves (lt_of_logic sound kind') nested with nested | stray
      · exact ih ⟨since, inner, kind', nested⟩ place'
      · exact absurd stray (not_stray_of_station here kind' place')
    · obtain ⟨pool, below⟩ := station_of_new sound enabled (Nat.le_of_not_lt old) kind place
      have some_left : (system.scope inner).concurrency ≠ 0 := Nat.ne_of_gt (Nat.zero_lt_of_lt below)
      have there : inner < system.scopes.length := by
        by_contra beyond
        rw [scope_of_not_lt system beyond] at some_left
        exact some_left rfl
      rcases nestedSince_moves moves there nested with nested | stray
      · have limit := reached.bounded.below (reached.moves continued) existing nested
        exact ⟨pool.trans (limit.pool_eq some_left), Nat.lt_of_lt_of_le below limit.concurrency_le⟩
      · exact absurd (here.bounded.stray inner stray) some_left

/-- A work without a slot is one that its submitter has begun. -/
theorem inline_of_unplaced (reached : Reaches (.initial setting) past system) (bound : work < system.works.length)
    (unplaced : (system.work work).station = none) :
    (system.work work).placement = .inline ∧ (system.work work).phase.hasBegun = true := by
  induction reached with
  | start => exact absurd bound (Nat.not_lt_zero work)
  | @step history system action reached enabled ih =>
    have continues := (step_perform reached.sound enabled).continues
    by_cases old : work < system.works.length
    · have onward : (system.work work).Onward ((system.perform action).work work) := continues.kept work old
      obtain ⟨placement, begun⟩ := ih old (onward.station.symm.trans unplaced)
      obtain ⟨begun, same⟩ := onward.begun begun
      exact ⟨same.trans placement, begun⟩
    · exact continues.new work bound (Nat.le_of_not_lt old) unplaced

/-- Slots below a mark are no more than the mark says. -/
theorem card_le_of_below {slots : Finset Lease} {pool : PoolId} {limit : Nat}
    (below : ∀ lease ∈ slots, lease.pool = pool ∧ lease.slot < limit) : slots.card ≤ limit := by
  rw [← Finset.card_range limit]
  refine Finset.card_le_card_of_injOn Lease.slot (fun lease member => ?_) fun lease left other right same => ?_
  · rw [Finset.coe_range, Set.mem_Iio]
    exact (below lease member).2
  · have pools := (below lease left).1.trans (below other right).1.symm
    cases lease
    cases other
    simp_all

/-- Works of one pool that hold leases of its first slots are at most as many as the slots. -/
theorem card_le_of_slots {events : List Event} (sound : system.picture.Sound events) (pool : PoolId) {limit : Nat}
    {works : Finset WorkId} (placed : ∀ work ∈ works, ∃ lease : Lease, (system.work work).holds lease = true ∧
      lease.pool = pool ∧ lease.slot < limit) : works.card ≤ limit := by
  let lease (work : WorkId) : Lease := (system.work work).station.getD { pool, slot := 0 }
  have read {work : WorkId} {station : Lease} (holds : (system.work work).holds station = true) :
    lease work = station := by
    simp only [lease, (holds_eq_true.mp holds).2, Option.getD_some]
  have apart : Set.InjOn lease works := by
    intro first left second right same
    obtain ⟨station, holds, -⟩ := placed first left
    obtain ⟨other, holds', -⟩ := placed second right
    rw [read holds, read holds'] at same
    exact eq_of_holds sound holds (same ▸ holds')
  rw [← Finset.card_image_of_injOn apart]
  apply card_le_of_below
  intro station member
  obtain ⟨work, inside, rfl⟩ := Finset.mem_image.mp member
  obtain ⟨station, holds, own, below⟩ := placed work inside
  rw [read holds]
  exact ⟨own, below⟩

/-- What a scope allowed at one moment holds for its nest at another. -/
structure KeepsLimit (before system : System) (scope : ScopeId) : Prop where
  slots : ∀ work lease, system.IsNestling before.works.length before.scopes.length scope work →
    (system.work work).station = some lease → lease.pool = (before.scope scope).pool ∧
      lease.slot < min (before.scope scope).concurrency (before.pool (before.scope scope).pool).capacity
  /-- So many leases of the nest can be live at once. -/
  live : ∀ works : Finset WorkId, (∀ work ∈ works,
    system.IsNestling before.works.length before.scopes.length scope work ∧
      ∃ lease, (system.work work).holds lease = true) → works.card ≤ (before.scope scope).concurrency
  inline : (before.scope scope).concurrency = 0 → ∀ work,
    system.IsNestling before.works.length before.scopes.length scope work →
      (system.work work).placement = .inline ∧ (system.work work).runs = [(system.work work).submitter]

end System

/-- Whatever happens after a moment, the logics of a scope, and of all that is entered in its nest, keep to
the slots that the scope could use at that moment. -/
theorem nest_limit {setting : Setting.State} {past history : List Moment} {before system : System}
    (reached : Reaches (.initial setting) past before) (continued : Reaches before history system) {scope : ScopeId}
    (existing : scope < before.scopes.length) : before.KeepsLimit system scope := by
  have here := reached.trans continued
  constructor
  case slots =>
    intro work lease nestling place
    obtain ⟨pool, below⟩ := System.station_of_nestling reached continued existing nestling place
    exact ⟨pool, Nat.lt_min.mpr ⟨below, Nat.lt_of_lt_of_le below (reached.bounded.capacity scope)⟩⟩
  case live =>
    intro works nestlings
    refine System.card_le_of_slots here.sound (before.scope scope).pool fun work member => ?_
    obtain ⟨nestling, lease, holds⟩ := nestlings work member
    exact ⟨lease, holds, System.station_of_nestling reached continued existing nestling
      (System.holds_eq_true.mp holds).2⟩
  case inline =>
    intro none_left work nestling
    have bound : work < system.works.length := by
      obtain ⟨-, inner, kind, -⟩ := nestling
      exact System.lt_of_kind kind
    have unplaced : (system.work work).station = none := by
      by_contra placed
      obtain ⟨lease, place⟩ := Option.ne_none_iff_exists'.mp placed
      have below := (System.station_of_nestling reached continued existing nestling place).2
      rw [none_left] at below
      exact Nat.not_lt_zero _ below
    obtain ⟨placement, begun⟩ := System.inline_of_unplaced here bound unplaced
    refine ⟨placement, ?_⟩
    rcases here.sound.channels.begun work begun with ⟨helper, sent, -⟩ | ⟨-, runs⟩
    · exact absurd (placement.symm.trans sent) Placement.noConfusion
    · exact runs

/-- A scope over a pool of two slots is reduced to one. -/
def reducedScope : List Action :=
  [.makePool 2 {}, .makeRoot 0 2, .enterIn 0 0 (.owned "outer"), .reduce 1 1]

/-- The logic of a scope has a slot and submits a logic to a scope of its own. -/
def nestedSubmission : List Action :=
  [.submit 0 1, .enter 1 (.owned "inner"), .submit 1 2]

/-- The nested logic runs inline although the other slot of the pool is free. -/
theorem nest_limit_nestedSubmission :
    let first := System.initial { hardware := 1 }
    let before := first.performAll reducedScope
    let system := before.performAll nestedSubmission
    Reaches first (first.moments [] reducedScope) before ∧
      Reaches before (before.moments [] nestedSubmission) system ∧
      1 < before.scopes.length ∧ before.KeepsLimit system 1 ∧
      system.IsNestling before.works.length before.scopes.length 1 1 ∧ (before.scope 1).concurrency = 1 ∧
      (system.work 1).placement = .inline ∧ (system.station { pool := 0, slot := 1 }).leased = false := by
  have allowed : (System.initial { hardware := 1 }).allows reducedScope = true := by decide
  have going : ((System.initial { hardware := 1 }).performAll reducedScope).allows nestedSubmission = true := by decide
  have reached := Reaches.start.performAll allowed
  have continued := (@Reaches.start ((System.initial { hardware := 1 }).performAll reducedScope)).performAll going
  exact ⟨reached, continued, by decide, nest_limit reached continued (by decide),
    ⟨by decide, 2, by decide, .single ⟨by decide, by decide⟩⟩, by decide, by decide, by decide⟩

end ScopedWork
