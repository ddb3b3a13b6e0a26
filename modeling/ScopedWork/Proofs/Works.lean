import ScopedWork.Proofs.Actions

/-! # How works go on

A work stays what it was submitted as. It begins, ends and is over, and does not begin again; once it has
begun it stays where it is. A step adds at most one work.
-/

namespace ScopedWork

/-- How a work goes on: it stays what it was submitted as, and once it has begun it stays where it is. -/
structure Work.Onward (work later : Work) : Prop where
  kind : later.kind = work.kind
  station : later.station = work.station
  begun : work.phase.hasBegun = true → later.phase.hasBegun = true ∧ later.placement = work.placement

theorem Work.Onward.refl (work : Work) : work.Onward work :=
  ⟨rfl, rfl, fun begun => ⟨begun, rfl⟩⟩

theorem Work.Onward.trans {work later last : Work} (first : work.Onward later) (second : later.Onward last) :
    work.Onward last where
  kind := second.kind.trans first.kind
  station := second.station.trans first.station
  begun begun :=
    let ⟨begun, placement⟩ := first.begun begun
    let ⟨begun, same⟩ := second.begun begun
    ⟨begun, same.trans placement⟩

namespace Picture

variable {picture after : Picture} {event : Event}

/-- What a step can do to works: those there are go on, and a new one without a lease begins at once. -/
structure Continues (picture after : Picture) : Prop where
  length_le : picture.works.length ≤ after.works.length
  kept : ∀ work < picture.works.length, (picture.work work).Onward (after.work work)
  new : ∀ work < after.works.length, picture.works.length ≤ work → (after.work work).station = none →
    (after.work work).placement = .inline ∧ (after.work work).phase.hasBegun = true

namespace Continues

theorem of_works (same : after.works = picture.works) : picture.Continues after where
  length_le := Nat.le_of_eq (congrArg List.length same.symm)
  kept work _ := by
    rw [Picture.work, Picture.work, same]
    exact .refl _
  new work bound beyond := by
    rw [same] at bound
    exact absurd bound (Nat.not_lt.mpr beyond)

theorem trans {middle : Picture} (first : picture.Continues middle) (second : middle.Continues after) :
    picture.Continues after where
  length_le := Nat.le_trans first.length_le second.length_le
  kept work bound := (first.kept work bound).trans (second.kept work (Nat.lt_of_lt_of_le bound first.length_le))
  new work bound beyond unplaced := by
    by_cases before : work < middle.works.length
    · have onward := second.kept work before
      obtain ⟨placement, begun⟩ := first.new work before beyond (onward.station.symm.trans unplaced)
      obtain ⟨begun, same⟩ := onward.begun begun
      exact ⟨same.trans placement, begun⟩
    · exact second.new work bound (Nat.le_of_not_lt before) unplaced

theorem of_modify {id : WorkId} {change : Work → Work} (works : after.works = picture.works.modify id change)
    (onward : (picture.work id).Onward (change (picture.work id))) : picture.Continues after where
  length_le := by rw [works, List.length_modify]
  kept work _ := by
    change (picture.work work).Onward (after.works[work]?.getD default)
    rw [works, read_modify]
    split_ifs with here
    · exact here.1 ▸ onward
    · exact .refl _
  new work bound beyond := by
    rw [works, List.length_modify] at bound
    exact absurd bound (Nat.not_lt.mpr beyond)

theorem of_append {work : Work} (works : after.works = picture.works ++ [work])
    (placed : work.station = none → work.placement = .inline ∧ work.phase.hasBegun = true) :
    picture.Continues after where
  length_le := by simp [works]
  kept other bound := by
    change (picture.work other).Onward (after.works[other]?.getD default)
    rw [works, read_append, if_neg (Nat.ne_of_lt bound)]
    exact .refl _
  new other bound beyond := by
    have last : other = picture.works.length := by
      rw [works, List.length_append, List.length_singleton] at bound
      omega
    rw [Picture.work, works, read_append, if_pos last]
    exact placed

theorem vacated {work : WorkId} (vacated : picture.Vacated work after) : picture.Continues after :=
  of_modify vacated.works_eq ⟨rfl, rfl, fun begun => ⟨begun, rfl⟩⟩

theorem sent {thread : ThreadId} {lease : Lease} {work : Work} (sent : picture.Sent thread lease work after)
    (place : work.station = some lease) : picture.Continues after := by
  have placed {later : Work} (same : later.station = work.station) (unplaced : later.station = none) : False := by
    rw [same, place] at unplaced
    exact Option.some_ne_none lease unplaced
  cases sent with
  | returned => exact of_append rfl fun unplaced => (placed rfl unplaced).elim
  | begun => exact of_append rfl fun unplaced => (placed rfl unplaced).elim
  | queued => exact of_append rfl fun unplaced => (placed rfl unplaced).elim

/-- A work whose program has ended goes on to the next phase of its end. -/
theorem ended {id : WorkId} {change : Work → Work} (works : after.works = picture.works.modify id change)
    (still : ∀ work, (change work).kind = work.kind ∧ (change work).station = work.station ∧
      (change work).placement = work.placement ∧ (change work).phase.hasBegun = true) : picture.Continues after :=
  let ⟨kind, station, placement, begun⟩ := still (picture.work id)
  of_modify works ⟨kind, station, fun _ => ⟨begun, placement⟩⟩

end Continues

theorem count_works (picture : Picture) (work : WorkId) : (picture.count work).works = picture.works := by
  rw [count]
  split <;> rfl

theorem Step.continues (step : picture.Step event after) : picture.Continues after := by
  cases step with
  | quiet quiet => exact .of_works quiet.works_eq
  | enter quiet => exact .of_works quiet.works_eq
  | acquire _ _ _ _ granted => exact .of_works granted.works_eq
  | dispatch _ _ _ sent => exact (Continues.of_works (by rfl)).trans (.sent sent rfl)
  | submitInline => exact .of_append rfl fun _ => ⟨rfl, rfl⟩
  | submitPooled _ _ _ _ granted sent =>
    have had : picture.Continues _ := .of_works granted.works_eq
    exact had.trans (.sent sent rfl)
  | free _ _ _ vacated => exact .vacated vacated
  | endLogic => exact .ended rfl fun _ => ⟨rfl, rfl, rfl, rfl⟩
  | endJob _ _ _ _ _ _ _ vacated =>
    have freed : picture.Continues _ := (Continues.of_works (by rfl)).trans (.vacated vacated)
    exact freed.trans (.ended rfl fun _ => ⟨rfl, rfl, rfl, rfl⟩)
  | vacate _ vacated => exact (Continues.vacated vacated).trans (.ended rfl fun _ => ⟨rfl, rfl, rfl, rfl⟩)
  | @complete _ _ work =>
    have counted : picture.Continues (picture.count work) := .of_works (picture.count_works work)
    exact counted.trans (.ended rfl fun _ => ⟨rfl, rfl, rfl, rfl⟩)
  | next _ _ _ waiting =>
    refine .of_modify rfl ⟨rfl, rfl, fun begun => ?_⟩
    rw [waiting.phase] at begun
    exact absurd begun Bool.false_ne_true
  | die _ _ waiting =>
    refine .of_modify rfl ⟨rfl, rfl, fun begun => ?_⟩
    rw [waiting.phase] at begun
    exact absurd begun Bool.false_ne_true
  | drain | leave | shift | dropLease | passLease | submitCutShort | rest | dieAlone | dropPool | start | finish =>
    exact .of_works rfl

/-- How a new work came about: a job was dispatched, or a logic was submitted to a scope. -/
structure Added (picture after : Picture) (event : Event) (work : WorkId) : Prop where
  last : work = picture.works.length
  kind : ∀ scope, (after.work work).kind = .logic scope → event = .submitted scope false

theorem Added.of_append {work : Work} {id : WorkId} (works : after.works = picture.works ++ [work])
    (kind : ∀ scope, work.kind = .logic scope → event = .submitted scope false) (bound : id < after.works.length)
    (beyond : picture.works.length ≤ id) : picture.Added after event id := by
  have last : id = picture.works.length := by
    rw [works, List.length_append, List.length_singleton] at bound
    exact Nat.le_antisymm (Nat.le_of_lt_succ bound) beyond
  refine ⟨last, ?_⟩
  rw [Picture.work, works, read_append, if_pos last]
  exact kind

theorem Sent.kind {thread : ThreadId} {lease : Lease} {work : Work} (sent : picture.Sent thread lease work after) :
    ∃ placed, after.works = picture.works ++ [placed] ∧ placed.kind = work.kind := by
  cases sent <;> exact ⟨_, rfl, rfl⟩

theorem Step.added (step : picture.Step event after) {work : WorkId} (bound : work < after.works.length)
    (beyond : picture.works.length ≤ work) : picture.Added after event work := by
  have none_new (same : after.works.length = picture.works.length) : picture.Added after event work :=
    absurd (same ▸ bound) (Nat.not_lt.mpr beyond)
  cases step with
  | quiet quiet => exact none_new (congrArg List.length quiet.works_eq)
  | enter quiet => exact none_new (congrArg List.length quiet.works_eq)
  | acquire _ _ _ _ granted => exact none_new (congrArg List.length granted.works_eq)
  | dispatch _ _ _ sent =>
    obtain ⟨placed, works, kind⟩ := sent.kind
    exact .of_append works (fun scope logic => absurd (kind.symm.trans logic) WorkKind.noConfusion) bound beyond
  | submitInline => exact .of_append rfl (fun scope logic => by rw [WorkKind.logic.inj logic]) bound beyond
  | submitPooled _ _ _ _ granted sent =>
    obtain ⟨placed, works, kind⟩ := sent.kind
    rw [granted.works_eq] at works
    exact .of_append works (fun scope logic => by rw [WorkKind.logic.inj (kind.symm.trans logic)]) bound beyond
  | free _ _ _ vacated => exact none_new (by rw [vacated.works_eq, List.length_modify])
  | endJob _ _ _ _ _ _ _ vacated =>
    refine none_new ?_
    rw [modifyWork, vacated.works_eq, List.length_modify, List.length_modify]
    rfl
  | vacate _ vacated => exact none_new (by rw [modifyWork, vacated.works_eq, List.length_modify, List.length_modify])
  | @complete _ _ target =>
    exact none_new ((List.length_modify _ _ _).trans (congrArg List.length (picture.count_works target)))
  | endLogic | next | die => exact none_new (List.length_modify _ _ _)
  | drain | leave | shift | dropLease | passLease | submitCutShort | rest | dieAlone | dropPool | start | finish =>
    exact none_new rfl

end Picture

namespace System

/-- A logic is one of a scope that is there. -/
theorem lt_of_logic {system : System} {events : List Event} (sound : system.picture.Sound events) {work : WorkId}
    {scope : ScopeId} (kind : (system.work work).kind = .logic scope) : scope < system.scopes.length := by
  have member := List.mem_of_getElem? (works_getElem? system (lt_of_kind kind))
  exact lt_of_parent ((sound.ledger scope).entered _ member kind)

end System

end ScopedWork

