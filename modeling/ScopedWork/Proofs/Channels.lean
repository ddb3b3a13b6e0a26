import ScopedWork.Proofs.Leasing

/-! # Helpers and their channels

A work that has been sent to a helper is either run by it, or waits in its channel behind the work
that the helper runs; both the slot and the work know of each other. A work is begun once: by the
helper it was sent to, or by its submitter if there was none.
-/

namespace ScopedWork

theorem WorkPhase.hasBegun_of_isActive {phase : WorkPhase} (active : phase.isActive = true) :
    phase.hasBegun = true := by
  cases phase <;> first | rfl | exact active

/-- Whether a work is run by the helper of a slot, or has been. -/
structure Work.RunsAt (work : Work) (station : Lease) (helper : ThreadId) : Prop where
  place : work.station = some station
  placement : work.placement = .helper helper
  begun : work.phase.hasBegun = true

/-- Who has begun a work: the helper it was sent to, or else its submitter. -/
def Work.BegunOnce (work : Work) : Prop :=
  (∃ helper, work.placement = .helper helper ∧ work.runs = [helper]) ∨
    (work.placement = .inline ∨ work.placement = .returned) ∧ work.runs = [work.submitter]

namespace Picture

variable {picture after : Picture} {id : WorkId} {lease : Lease}

/-- What slots say of works and works of slots. -/
structure Channels (picture : Picture) : Prop where
  quiet : ∀ lease, (∀ helper job, (picture.station lease).helper ≠ .busy helper job) →
    (picture.station lease).waiting = none
  idle : ∀ lease helper, (picture.station lease).helper = .idle helper → helper < picture.threads
  busy : ∀ lease helper job, (picture.station lease).helper = .busy helper job →
    helper < picture.threads ∧ (picture.work job).RunsAt lease helper
  waits : ∀ lease work, (picture.station lease).waiting = some work → picture.Waits lease work
  cut : ∀ lease, picture.dropped lease.pool = false → (picture.station lease).sender = false →
    (picture.station lease).helper = .absent
  running : ∀ work helper, (picture.work work).phase.isActive = true →
    (picture.work work).placement = .helper helper →
    ∃ lease, (picture.work work).station = some lease ∧ (picture.station lease).helper = .busy helper work
  queued : ∀ work < picture.works.length, (picture.work work).phase = .waiting →
    ∃ lease, (picture.station lease).waiting = some work
  begun : ∀ work, (picture.work work).phase.hasBegun = true → (picture.work work).BegunOnce
  fresh : ∀ work, (picture.work work).phase.hasBegun = false → (picture.work work).runs = []

namespace Channels

/-! ## Changes that no channel sees -/

/-- A work that has begun goes on towards its end. -/
theorem advance (channels : picture.Channels) (change : Work → Work)
    (active : (picture.work id).phase.isActive = true)
    (begun : ∀ work, work.phase.hasBegun = true → (change work).phase.hasBegun = true)
    (still : ∀ work, (change work).station = work.station ∧ (change work).placement = work.placement ∧
      (change work).runs = work.runs ∧ (change work).submitter = work.submitter) :
    (picture.modifyWork id change).Channels := by
  have before := WorkPhase.hasBegun_of_isActive active
  -- the changed work is read through the old one; every other work is the same
  have read (work : WorkId) : (picture.modifyWork id change).work work = picture.work work ∧ work ≠ id ∨
      work = id ∧ ((picture.modifyWork id change).work work).phase.hasBegun = true ∧
        ((picture.modifyWork id change).work work).station = (picture.work work).station ∧
        ((picture.modifyWork id change).work work).placement = (picture.work work).placement ∧
        ((picture.modifyWork id change).work work).runs = (picture.work work).runs ∧
        ((picture.modifyWork id change).work work).submitter = (picture.work work).submitter := by
    rw [work_modifyWork]
    by_cases here : work = id
    · subst here
      have bound : work < picture.works.length := lt_of_phase fun waiting => by
        rw [waiting] at before
        exact Bool.noConfusion before
      rw [if_pos ⟨rfl, bound⟩]
      exact .inr ⟨rfl, begun _ before, still _⟩
    · rw [if_neg fun both => here both.1]
      exact .inl ⟨rfl, here⟩
  constructor
  case quiet => exact channels.quiet
  case idle => exact channels.idle
  case busy =>
    intro lease helper job busy
    obtain ⟨bound, place, placement, started⟩ := channels.busy lease helper job busy
    refine ⟨bound, ?_⟩
    rcases read job with ⟨same, -⟩ | ⟨-, begun, station, placed, -⟩
    · rw [same]
      exact ⟨place, placement, started⟩
    · exact ⟨station.trans place, placed.trans placement, begun⟩
  case waits =>
    intro lease work waiting
    obtain ⟨slot, bound, phase, leased, place⟩ := channels.waits lease work waiting
    rcases read work with ⟨same, -⟩ | ⟨rfl, -⟩
    · refine ⟨slot, ?_, ?_, ?_, ?_⟩
      · rw [modifyWork, List.length_modify]
        exact bound
      all_goals rw [same]; assumption
    · rw [phase] at before
      exact Bool.noConfusion before
  case cut => exact channels.cut
  case running =>
    intro work helper runs placement
    rcases read work with ⟨same, -⟩ | ⟨rfl, -, station, placed, -⟩
    · rw [same] at runs placement ⊢
      exact channels.running work helper runs placement
    · rw [placed] at placement
      rw [station]
      exact channels.running work helper active placement
  case queued =>
    intro work bound waiting
    rw [modifyWork, List.length_modify] at bound
    rcases read work with ⟨same, -⟩ | ⟨-, begun, -⟩
    · rw [same] at waiting
      exact channels.queued work bound waiting
    · rw [waiting] at begun
      exact Bool.noConfusion begun
  case begun =>
    intro work started
    rcases read work with ⟨same, -⟩ | ⟨rfl, -, -, placed, runs, submitter⟩
    · rw [same] at started ⊢
      exact channels.begun work started
    · rw [Work.BegunOnce, placed, runs, submitter]
      exact channels.begun work before
  case fresh =>
    intro work idle
    rcases read work with ⟨same, -⟩ | ⟨-, begun, -⟩
    · rw [same] at idle ⊢
      exact channels.fresh work idle
    · rw [begun] at idle
      exact Bool.noConfusion idle

/-- Slots may be leased, freed, barred and cut, and threads be started; no busy helper notices. -/
theorem restation (channels : picture.Channels) (works : after.works = picture.works)
    (threads : picture.threads ≤ after.threads)
    (waiting : ∀ lease, (after.station lease).waiting = (picture.station lease).waiting)
    (busy : ∀ lease helper job, (after.station lease).helper = .busy helper job ↔
      (picture.station lease).helper = .busy helper job)
    (idle : ∀ lease helper, (after.station lease).helper = .idle helper →
      (picture.station lease).helper = .idle helper)
    (cut : ∀ lease, after.dropped lease.pool = false → (after.station lease).sender = false →
      (after.station lease).helper = .absent) : after.Channels := by
  have read (work : WorkId) : after.work work = picture.work work := by rw [Picture.work, Picture.work, works]
  constructor
  case quiet =>
    intro lease rests
    rw [waiting]
    exact channels.quiet lease fun helper job runs => rests helper job ((busy lease helper job).mpr runs)
  case idle =>
    intro lease helper rests
    exact Nat.lt_of_lt_of_le (channels.idle lease helper (idle lease helper rests)) threads
  case busy =>
    intro lease helper job runs
    obtain ⟨bound, runs⟩ := channels.busy lease helper job ((busy lease helper job).mp runs)
    rw [read]
    exact ⟨Nat.lt_of_lt_of_le bound threads, runs⟩
  case waits =>
    intro lease work slot
    obtain ⟨-, bound, phase, leased, place⟩ := channels.waits lease work (waiting lease ▸ slot)
    exact ⟨slot, works ▸ bound, read work ▸ phase, read work ▸ leased, read work ▸ place⟩
  case cut => exact cut
  case running =>
    intro work helper active placement
    rw [read] at active placement ⊢
    obtain ⟨lease, place, runs⟩ := channels.running work helper active placement
    exact ⟨lease, place, (busy lease helper work).mpr runs⟩
  case queued =>
    intro work bound waits
    rw [works] at bound
    rw [read] at waits
    obtain ⟨lease, slot⟩ := channels.queued work bound waits
    exact ⟨lease, (waiting lease).trans slot⟩
  case begun =>
    intro work
    rw [read]
    exact channels.begun work
  case fresh =>
    intro work
    rw [read]
    exact channels.fresh work

/-- Slots may be leased, freed and barred, and threads be started. -/
theorem of_same (channels : picture.Channels) (works : after.works = picture.works)
    (dropped : after.dropped = picture.dropped) (threads : picture.threads ≤ after.threads)
    (same : ∀ lease, (after.station lease).sender = (picture.station lease).sender ∧
      (after.station lease).helper = (picture.station lease).helper ∧
      (after.station lease).waiting = (picture.station lease).waiting) : after.Channels := by
  refine channels.restation works threads (fun lease => (same lease).2.2)
    (fun lease helper job => by rw [(same lease).2.1]) (fun lease helper => by rw [(same lease).2.1]; exact id)
    fun lease live => ?_
  rw [(same lease).1, (same lease).2.1]
  exact channels.cut lease (dropped ▸ live)

/-- A slot may be leased or freed. -/
theorem setLeased (channels : picture.Channels) (lease : Lease) (leased : Bool) :
    (picture.modifyStation lease ({ · with leased })).Channels := by
  refine channels.of_same rfl rfl (Nat.le_refl _) fun other => ?_
  by_cases here : other = lease
  · subst here
    simp only [modifyStation, Function.update_self, and_self]
  · simp only [modifyStation, Function.update_of_ne here, and_self]

/-- A pool that is dropped leaves its busy helpers to what they run and what waits for them. -/
theorem dropPool (channels : picture.Channels) (pool : PoolId) :
    Channels { picture with
      station := fun lease => if lease.pool = pool then (picture.station lease).cut else picture.station lease
      dropped := Function.update picture.dropped pool true } := by
  refine channels.restation rfl (Nat.le_refl _) (fun lease => ?_) (fun lease helper job => ?_)
    (fun lease helper => ?_) fun lease live => ?_
  · dsimp only
    split <;> rfl
  · dsimp only
    split
    · cases found : (picture.station lease).helper <;> simp [Slot.cut, found]
    · exact Iff.rfl
  · dsimp only
    split
    · cases found : (picture.station lease).helper <;> simp [Slot.cut, found]
    · exact id
  · dsimp only at live ⊢
    by_cases here : lease.pool = pool
    · rw [here, Function.update_self] at live
      exact absurd live (by decide)
    · rw [Function.update_of_ne here] at live
      rw [if_neg here]
      exact channels.cut lease live

end Channels

/-! ## Changes of one slot and one work -/

/-- One slot changes, and one work that had not begun, which no other slot has in its channel. -/
structure Exchanged (picture after : Picture) (lease : Lease) (slot : Slot WorkId) (id : WorkId) : Prop where
  station : after.station = Function.update picture.station lease slot
  dropped : after.dropped = picture.dropped
  threads : picture.threads ≤ after.threads
  works : ∀ work, work ≠ id → after.work work = picture.work work
  bound : ∀ work, work ≠ id → (work < after.works.length ↔ work < picture.works.length)
  idle : (picture.work id).phase.hasBegun = false
  only : ∀ other, (picture.station other).waiting = some id → other = lease
  -- the slot afterwards
  quiet : (∀ helper job, slot.helper ≠ .busy helper job) → slot.waiting = none
  rests : ∀ helper, slot.helper = .idle helper → helper < after.threads
  runs : ∀ helper job, slot.helper = .busy helper job →
    helper < after.threads ∧ (after.work job).RunsAt lease helper
  waits : ∀ work, slot.waiting = some work → after.Waits lease work
  cut : picture.dropped lease.pool = false → slot.sender = false → slot.helper = .absent
  -- what the slot had to do with other works
  keeps : ∀ helper work, work ≠ id → (picture.station lease).helper = .busy helper work →
    (picture.work work).phase.isActive = true → slot.helper = .busy helper work
  holds : ∀ work, work ≠ id → (picture.station lease).waiting = some work → slot.waiting = some work
  -- the work afterwards
  running : ∀ helper, (after.work id).phase.isActive = true → (after.work id).placement = .helper helper →
    (after.work id).station = some lease ∧ slot.helper = .busy helper id
  queued : id < after.works.length → (after.work id).phase = .waiting → slot.waiting = some id
  begun : (after.work id).phase.hasBegun = true → (after.work id).BegunOnce
  fresh : (after.work id).phase.hasBegun = false → (after.work id).runs = []

theorem Channels.exchange {slot : Slot WorkId} (channels : picture.Channels)
    (exchanged : picture.Exchanged after lease slot id) : after.Channels := by
  have here : after.station lease = slot := by rw [exchanged.station, Function.update_self]
  have there {other : Lease} (ne : other ≠ lease) : after.station other = picture.station other := by
    rw [exchanged.station, Function.update_of_ne ne]
  constructor
  case quiet =>
    intro other rests
    by_cases same : other = lease
    · subst same
      rw [here] at rests ⊢
      exact exchanged.quiet rests
    · rw [there same] at rests ⊢
      exact channels.quiet other rests
  case idle =>
    intro other helper idle
    by_cases same : other = lease
    · subst same
      rw [here] at idle
      exact exchanged.rests helper idle
    · rw [there same] at idle
      exact Nat.lt_of_lt_of_le (channels.idle other helper idle) exchanged.threads
  case busy =>
    intro other helper job busy
    by_cases same : other = lease
    · subst same
      rw [here] at busy
      exact exchanged.runs helper job busy
    · rw [there same] at busy
      obtain ⟨bound, runs⟩ := channels.busy other helper job busy
      have ne : job ≠ id := by
        rintro rfl
        exact Bool.false_ne_true (exchanged.idle.symm.trans runs.begun)
      rw [exchanged.works job ne]
      exact ⟨Nat.lt_of_lt_of_le bound exchanged.threads, runs⟩
  case waits =>
    intro other work waiting
    by_cases same : other = lease
    · subst same
      rw [here] at waiting
      exact exchanged.waits work waiting
    · have slot := waiting
      rw [there same] at waiting
      have ne : work ≠ id := by
        rintro rfl
        exact same (exchanged.only other waiting)
      obtain ⟨-, bound, phase, leased, place⟩ := channels.waits other work waiting
      refine ⟨slot, (exchanged.bound work ne).mpr bound, ?_, ?_, ?_⟩
      all_goals rw [exchanged.works work ne]; assumption
  case cut =>
    intro other live
    rw [exchanged.dropped] at live
    by_cases same : other = lease
    · subst same
      rw [here]
      exact exchanged.cut live
    · rw [there same]
      exact channels.cut other live
  case running =>
    intro work helper active placement
    by_cases same : work = id
    · subst same
      obtain ⟨place, busy⟩ := exchanged.running helper active placement
      exact ⟨lease, place, here ▸ busy⟩
    · rw [exchanged.works work same] at active placement ⊢
      obtain ⟨other, place, busy⟩ := channels.running work helper active placement
      refine ⟨other, place, ?_⟩
      by_cases at_slot : other = lease
      · subst at_slot
        rw [here]
        exact exchanged.keeps helper work same busy active
      · rw [there at_slot]
        exact busy
  case queued =>
    intro work bound waiting
    by_cases same : work = id
    · subst same
      exact ⟨lease, here ▸ exchanged.queued bound waiting⟩
    · rw [exchanged.works work same] at waiting
      obtain ⟨other, slot⟩ := channels.queued work ((exchanged.bound work same).mp bound) waiting
      refine ⟨other, ?_⟩
      by_cases at_slot : other = lease
      · subst at_slot
        rw [here]
        exact exchanged.holds work same slot
      · rw [there at_slot]
        exact slot
  case begun =>
    intro work
    by_cases same : work = id
    · subst same
      exact exchanged.begun
    · rw [exchanged.works work same]
      exact channels.begun work
  case fresh =>
    intro work
    by_cases same : work = id
    · subst same
      exact exchanged.fresh
    · rw [exchanged.works work same]
      exact channels.fresh work

namespace Channels

/-- No channel has a work whose number is not in use. -/
theorem not_waits_new (channels : picture.Channels) (other : Lease) :
    (picture.station other).waiting ≠ some picture.works.length := fun waiting =>
  Nat.lt_irrefl _ (channels.waits other _ waiting).bound

/-- Only a slot changes; no work that it is concerned with is active. -/
theorem reslot (channels : picture.Channels) (lease : Lease) (change : Slot WorkId → Slot WorkId)
    (station : after.station = (picture.modifyStation lease change).station) (works : after.works = picture.works)
    (dropped : after.dropped = picture.dropped) (threads : picture.threads ≤ after.threads)
    (free : ∀ helper work, (picture.station lease).helper = .busy helper work →
      (picture.work work).phase.isActive = false)
    (empty : (picture.station lease).waiting = none)
    (still : (change (picture.station lease)).waiting = none)
    (rests : ∀ helper, (change (picture.station lease)).helper = .idle helper → helper < after.threads)
    (idle : ∀ helper job, (change (picture.station lease)).helper ≠ .busy helper job)
    (cut : picture.dropped lease.pool = false → (change (picture.station lease)).sender = false →
      (change (picture.station lease)).helper = .absent) : after.Channels := by
  have read (work : WorkId) : after.work work = picture.work work := by rw [Picture.work, Picture.work, works]
  have new : after.work picture.works.length = default := by rw [read, work_of_not_lt (Nat.lt_irrefl _)]
  have exchanged : picture.Exchanged after lease (change (picture.station lease)) picture.works.length := {
    station := station
    dropped := dropped
    threads := threads
    works := fun work _ => read work
    bound := fun work _ => by rw [works]
    idle := by rw [← read, new]; rfl
    only := fun other waiting => (channels.not_waits_new other waiting).elim
    quiet := fun _ => still
    rests := rests
    runs := fun helper job busy => (idle helper job busy).elim
    waits := fun work waiting => by simp [still] at waiting
    cut := cut
    keeps := fun helper work _ busy active => by
      rw [free helper work busy] at active
      exact Bool.noConfusion active
    holds := fun work _ waiting => by simp [empty] at waiting
    running := fun helper active => by
      rw [new] at active
      exact Bool.noConfusion active
    queued := fun bound => by
      rw [works] at bound
      exact (Nat.lt_irrefl _ bound).elim
    begun := fun begun => by
      rw [new] at begun
      exact Bool.noConfusion begun
    fresh := fun _ => by rw [new]; rfl }
  exact channels.exchange exchanged

/-- A new work that begins at once, or waits in a channel that was empty. -/
theorem launch (channels : picture.Channels) {slot : Slot WorkId} {work : Work}
    (station : after.station = Function.update picture.station lease slot)
    (works : after.works = picture.works ++ [work]) (dropped : after.dropped = picture.dropped)
    (threads : after.threads = picture.threads)
    (rests : ∀ helper, slot.helper = .idle helper → helper < picture.threads)
    (runs : ∀ helper job, slot.helper = .busy helper job → (picture.station lease).helper = .busy helper job ∨
      helper < picture.threads ∧ job = picture.works.length ∧ work.RunsAt lease helper)
    (keeps : ∀ helper job, (picture.station lease).helper = .busy helper job → slot.helper = .busy helper job)
    (waits : slot.waiting = (picture.station lease).waiting ∨
      (picture.station lease).waiting = none ∧ slot.waiting = some picture.works.length ∧ work.phase = .waiting ∧
        work.leased = true ∧ work.station = some lease ∧ ∃ helper job, slot.helper = .busy helper job)
    (cut : picture.dropped lease.pool = false → slot.sender = false → slot.helper = .absent)
    (running : ∀ helper, work.placement = .helper helper →
      work.station = some lease ∧ slot.helper = .busy helper picture.works.length)
    (queued : work.phase = .waiting → slot.waiting = some picture.works.length)
    (begun : work.phase.hasBegun = true → work.BegunOnce)
    (fresh : work.phase.hasBegun = false → work.runs = []) : after.Channels := by
  have new : after.work picture.works.length = work := by
    rw [Picture.work, works, read_append, if_pos rfl]
  have old (other : WorkId) (ne : other ≠ picture.works.length) : after.work other = picture.work other := by
    rw [Picture.work, works, read_append, if_neg ne, Picture.work]
  have length : after.works.length = picture.works.length + 1 := by
    rw [works, List.length_append, List.length_singleton]
  have exchanged : picture.Exchanged after lease slot picture.works.length := {
    station := station
    dropped := dropped
    threads := Nat.le_of_eq threads.symm
    works := old
    bound := fun other ne => by
      rw [length]
      exact ⟨fun lower => Nat.lt_of_le_of_ne (Nat.le_of_lt_succ lower) ne, Nat.lt_succ_of_lt⟩
    idle := by rw [work_of_not_lt (Nat.lt_irrefl _)]; rfl
    only := fun other waiting => (channels.not_waits_new other waiting).elim
    quiet := fun idle => by
      rcases waits with same | ⟨-, -, -, -, -, helper, job, busy⟩
      · rw [same]
        exact channels.quiet lease fun helper job busy => idle helper job (keeps helper job busy)
      · exact (idle helper job busy).elim
    rests := threads ▸ rests
    runs := fun helper job busy => by
      rcases runs helper job busy with before | ⟨bound, rfl, runs⟩
      · obtain ⟨bound, runs⟩ := channels.busy lease helper job before
        have ne : job ≠ picture.works.length := by
          rintro rfl
          have begun := runs.begun
          rw [work_of_not_lt (Nat.lt_irrefl _)] at begun
          exact Bool.noConfusion begun
        rw [old job ne, threads]
        exact ⟨bound, runs⟩
      · rw [new, threads]
        exact ⟨bound, runs⟩
    waits := fun other waiting => by
      have slots : after.station lease = slot := by rw [station, Function.update_self]
      rcases waits with same | ⟨-, some, phase, leased, place, -⟩
      · obtain ⟨-, bound, phase, leased, place⟩ := channels.waits lease other (same ▸ waiting)
        refine ⟨slots ▸ waiting, by rw [length]; exact Nat.lt_succ_of_lt bound, ?_, ?_, ?_⟩
        all_goals rw [old other (Nat.ne_of_lt bound)]; assumption
      · obtain rfl : picture.works.length = other := Option.some.inj (some.symm.trans waiting)
        refine ⟨slots ▸ some, by rw [length]; exact Nat.lt_succ_self _, ?_, ?_, ?_⟩
        all_goals rw [new]; assumption
    cut := cut
    keeps := fun helper job _ busy _ => keeps helper job busy
    holds := fun other _ waiting => by
      rcases waits with same | ⟨none, -⟩
      · exact same.trans waiting
      · simp [none] at waiting
    running := fun helper _ placement => by
      rw [new] at placement ⊢
      exact running helper placement
    queued := fun _ => by rw [new]; exact queued
    begun := by rw [new]; exact begun
    fresh := by rw [new]; exact fresh }
  exact channels.exchange exchanged

/-- A free slot is leased, by someone who may still use its pool. -/
theorem granted (channels : picture.Channels) (usable : picture.dropped lease.pool = false)
    (granted : picture.Granted lease after) : after.Channels := by
  cases granted with
  | connected free => exact channels.setLeased lease true
  | started free cold =>
    have absent := channels.cut lease usable cold
    have empty := channels.quiet lease (by rw [absent]; simp)
    refine channels.reslot lease ({ · with leased := true, sender := true, helper := .idle picture.threads })
      rfl rfl rfl (Nat.le_succ _) ?_ empty empty ?_ ?_ ?_
    · intro helper work busy
      rw [absent] at busy
      exact absurd busy (by simp)
    · intro helper idle
      obtain rfl := Helper.idle.inj idle
      exact Nat.lt_succ_self _
    · simp
    · simp

/-- A new work is sent through a lease whose channel has room. -/
theorem sent (channels : picture.Channels) {thread : ThreadId} {work : Work}
    (sent : picture.Sent thread lease work after)
    (waiting : work.phase = .waiting) (leased : work.leased = true) (place : work.station = some lease)
    (submitter : work.submitter = thread) (runs : work.runs = []) :
    after.Channels := by
  cases sent with
  | returned saved gone =>
    refine channels.launch rfl rfl rfl rfl (channels.idle lease) (fun _ _ busy => .inl busy)
      (fun _ _ busy => busy) (.inl rfl) ?_ ?_ ?_ ?_ ?_
    · intro live _
      exact gone.elim (channels.cut lease live) id
    · exact fun _ placed => absurd placed (by simp)
    · exact fun waits => absurd waits (by simp)
    · exact fun _ => .inr ⟨.inr rfl, by simp only [runs, submitter]⟩
    · exact fun idle => absurd idle.symm Bool.false_ne_true
  | begun helper saved idle =>
    have bound := channels.idle lease helper idle
    refine channels.launch rfl rfl rfl rfl ?_ ?_ ?_ (.inl rfl) ?_ ?_ ?_ ?_ ?_
    · exact fun _ rests => absurd rests (by simp)
    · intro other job busy
      obtain ⟨rfl, rfl⟩ := Helper.busy.inj busy
      exact .inr ⟨bound, rfl, place, rfl, rfl⟩
    · intro other job busy
      rw [idle] at busy
      exact absurd busy (by simp)
    · intro live cut
      have absent := channels.cut lease live cut
      rw [idle] at absent
      exact absurd absent (by simp)
    · intro other placed
      obtain rfl := Placement.helper.inj placed
      exact ⟨place, rfl⟩
    · exact fun waits => absurd waits (by simp)
    · exact fun _ => .inl ⟨helper, rfl, by simp only [runs]⟩
    · exact fun idle => absurd idle.symm Bool.false_ne_true
  | queued helper job busy room =>
    refine channels.launch rfl rfl rfl rfl (channels.idle lease) (fun _ _ busy => .inl busy)
      (fun _ _ busy => busy) (.inr ⟨room, rfl, waiting, leased, place, helper, job, busy⟩) (channels.cut lease) ?_
      (fun _ => rfl) ?_ fun _ => runs
    · exact fun _ placed => absurd placed (by simp)
    · intro begun
      rw [waiting] at begun
      exact absurd begun (by decide)

/-- A new work that its submitter runs for want of a lease. -/
theorem inline (channels : picture.Channels) {work : Work} (station : after.station = picture.station)
    (works : after.works = picture.works ++ [work]) (dropped : after.dropped = picture.dropped)
    (threads : after.threads = picture.threads) (running : work.phase = .running)
    (placement : work.placement = .inline) (runs : work.runs = [work.submitter]) : after.Channels := by
  -- no slot changes, so that any will do
  let lease : Lease := { pool := 0, slot := 0 }
  have same : after.station = Function.update picture.station lease (picture.station lease) := by
    rw [Function.update_eq_self, station]
  refine channels.launch same works dropped threads (channels.idle lease) (fun _ _ busy => .inl busy)
    (fun _ _ busy => busy) (.inl rfl) (channels.cut lease) ?_ ?_ ?_ ?_
  · intro helper placed
    rw [placement] at placed
    exact absurd placed (by simp)
  · intro waits
    rw [running] at waits
    exact absurd waits (by simp)
  · exact fun _ => .inr ⟨.inl placement, runs⟩
  · intro idle
    rw [running] at idle
    exact absurd idle (by decide)

/-- A helper begins the work that waits in its channel. -/
theorem next (channels : picture.Channels) {helper : ThreadId} {job next : WorkId}
    (busy : (picture.station lease).helper = .busy helper job) (finished : (picture.work job).phase = .over)
    (waiting : picture.Waits lease next)
    (station : after.station =
      (picture.modifyStation lease ({ · with helper := .busy helper next, waiting := none })).station)
    (works : after.works = picture.works.modify next (fun work => { work with
      phase := .running, snapshot := none, runs := helper :: work.runs, placement := .helper helper }))
    (dropped : after.dropped = picture.dropped) (threads : after.threads = picture.threads) :
    after.Channels := by
  have changed : after.work next = { picture.work next with
      phase := .running, snapshot := none
      runs := helper :: (picture.work next).runs, placement := .helper helper } := by
    rw [Picture.work, works, read_modify, if_pos ⟨rfl, waiting.bound⟩, Picture.work]
  have old (other : WorkId) (ne : other ≠ next) : after.work other = picture.work other := by
    rw [Picture.work, works, read_modify, if_neg fun both => ne both.1, Picture.work]
  have unbegun : (picture.work next).phase.hasBegun = false := by rw [waiting.phase]; rfl
  have exchanged : picture.Exchanged after lease
      { picture.station lease with helper := .busy helper next, waiting := none } next := {
    station := station
    dropped := dropped
    threads := Nat.le_of_eq threads.symm
    works := old
    bound := fun other _ => by rw [works, List.length_modify]
    idle := unbegun
    only := fun other slot =>
      Option.some.inj ((channels.waits other next slot).place.symm.trans waiting.place)
    quiet := fun _ => rfl
    rests := fun _ idle => absurd idle (by simp)
    runs := fun other work runs => by
      obtain ⟨rfl, rfl⟩ := Helper.busy.inj runs
      rw [changed, threads]
      exact ⟨(channels.busy lease _ job busy).1, waiting.place, rfl, rfl⟩
    waits := fun _ none => absurd none (by simp)
    cut := fun live cut => by
      have absent := channels.cut lease live cut
      rw [busy] at absent
      exact absurd absent (by simp)
    keeps := fun other work _ runs active => by
      rw [busy] at runs
      obtain ⟨rfl, rfl⟩ := Helper.busy.inj runs
      rw [finished] at active
      exact absurd active (by decide)
    holds := fun work ne slot => by
      rw [waiting.slot] at slot
      exact absurd (Option.some.inj slot).symm ne
    running := fun other _ placed => by
      rw [changed] at placed ⊢
      obtain rfl := Placement.helper.inj placed
      exact ⟨waiting.place, rfl⟩
    queued := fun _ phase => by
      rw [changed] at phase
      exact absurd phase (by simp)
    begun := fun _ => by
      rw [changed]
      exact .inl ⟨helper, rfl, by simp only [channels.fresh next unbegun]⟩
    fresh := fun idle => by
      rw [changed] at idle
      exact absurd idle.symm Bool.false_ne_true }
  exact channels.exchange exchanged

/-- A helper dies, and the work in its channel is lost. -/
theorem die (channels : picture.Channels) {helper : ThreadId} {job lost : WorkId}
    (busy : (picture.station lease).helper = .busy helper job) (finished : (picture.work job).phase = .over)
    (waiting : picture.Waits lease lost)
    (station : after.station =
      (picture.modifyStation lease ({ · with leased := false, helper := .absent, waiting := none })).station)
    (works : after.works = picture.works.modify lost
      ({ · with leased := false, phase := .discarded, snapshot := none }))
    (dropped : after.dropped = picture.dropped) (threads : after.threads = picture.threads) :
    after.Channels := by
  have changed : after.work lost = { picture.work lost with
      leased := false, phase := .discarded, snapshot := none } := by
    rw [Picture.work, works, read_modify, if_pos ⟨rfl, waiting.bound⟩, Picture.work]
  have unbegun : (picture.work lost).phase.hasBegun = false := by rw [waiting.phase]; rfl
  have exchanged : picture.Exchanged after lease
      { picture.station lease with leased := false, helper := .absent, waiting := none } lost := {
    station := station
    dropped := dropped
    threads := Nat.le_of_eq threads.symm
    works := fun other ne => by
      rw [Picture.work, works, read_modify, if_neg fun both => ne both.1, Picture.work]
    bound := fun other _ => by rw [works, List.length_modify]
    idle := unbegun
    only := fun other slot =>
      Option.some.inj ((channels.waits other lost slot).place.symm.trans waiting.place)
    quiet := fun _ => rfl
    rests := fun _ idle => absurd idle (by simp)
    runs := fun _ _ runs => absurd runs (by simp)
    waits := fun _ none => absurd none (by simp)
    cut := fun _ _ => rfl
    keeps := fun other work _ runs active => by
      rw [busy] at runs
      obtain ⟨rfl, rfl⟩ := Helper.busy.inj runs
      rw [finished] at active
      exact absurd active (by decide)
    holds := fun work ne slot => by
      rw [waiting.slot] at slot
      exact absurd (Option.some.inj slot).symm ne
    running := fun _ active => by
      rw [changed] at active
      exact absurd active Bool.false_ne_true
    queued := fun _ phase => by
      rw [changed] at phase
      exact absurd phase (by simp)
    begun := fun begun => by
      rw [changed] at begun
      exact absurd begun Bool.false_ne_true
    fresh := fun _ => by
      rw [changed]
      exact channels.fresh lost unbegun }
  exact channels.exchange exchanged

/-- A helper that has ended its work runs no other. -/
theorem idle_of_over {helper : ThreadId} {job : WorkId}
    (busy : (picture.station lease).helper = .busy helper job) (finished : (picture.work job).phase = .over)
    (other : ThreadId) (work : WorkId) (runs : (picture.station lease).helper = .busy other work) :
    (picture.work work).phase.isActive = false := by
  rw [busy] at runs
  obtain ⟨rfl, rfl⟩ := Helper.busy.inj runs
  rw [finished]
  rfl

theorem vacated (channels : picture.Channels) (active : (picture.work id).phase.isActive = true)
    (vacated : picture.Vacated id after) : after.Channels := by
  cases vacated with
  | held lease held =>
    exact (channels.setLeased lease false).advance ({ · with leased := false }) active (fun _ begun => begun)
      fun _ => ⟨rfl, rfl, rfl, rfl⟩
  | bare bare =>
    exact channels.advance ({ · with leased := false }) active (fun _ begun => begun) fun _ => ⟨rfl, rfl, rfl, rfl⟩

theorem vacate (channels : picture.Channels) (active : (picture.work id).phase.isActive = true)
    (vacated : picture.Vacated id after) : (after.modifyWork id ({ · with phase := .vacated })).Channels := by
  have still : (after.work id).phase.isActive = true := by rw [vacated.phase, active]
  exact (channels.vacated active vacated).advance ({ · with phase := .vacated }) still (fun _ _ => rfl)
    fun _ => ⟨rfl, rfl, rfl, rfl⟩

/-- Channels depend on no scope and on no activation. -/
theorem frame (channels : picture.Channels) (works : after.works = picture.works)
    (station : after.station = picture.station) (dropped : after.dropped = picture.dropped)
    (threads : picture.threads ≤ after.threads) : after.Channels :=
  channels.of_same works dropped threads fun lease => by rw [station]; exact ⟨rfl, rfl, rfl⟩

theorem step (channels : picture.Channels) {event : Event} (step : picture.Step event after) :
    after.Channels := by
  cases step with
  | quiet quiet =>
    cases quiet with
    | intro scopes slots =>
      refine channels.of_same rfl rfl (Nat.le_refl _) fun lease => ?_
      obtain ⟨barred, same⟩ := slots lease
      simp only [same, and_self]
  | enter quiet =>
    cases quiet with
    | intro scopes slots =>
      refine channels.of_same rfl rfl (Nat.le_refl _) fun lease => ?_
      obtain ⟨barred, same⟩ := slots lease
      simp only [withCrew, modifyScope, same, and_self]
  | drain => exact channels.frame rfl rfl rfl (Nat.le_refl _)
  | leave => exact channels.frame rfl rfl rfl (Nat.le_refl _)
  | shift => exact channels.frame rfl rfl rfl (Nat.le_refl _)
  | acquire top running usable new granted =>
    exact (channels.granted usable granted).frame rfl rfl rfl (Nat.le_refl _)
  | dropLease => exact (channels.setLeased _ false).frame rfl rfl rfl (Nat.le_refl _)
  | passLease => exact channels.frame rfl rfl rfl (Nat.le_refl _)
  | @dispatch _ activation others _ name _ top running held sent =>
    have taken : (picture.withCrew ({ activation with
        leases := activation.leases.filter (·.1 ≠ name) } ::ₘ others)).Channels :=
      channels.frame rfl rfl rfl (Nat.le_refl _)
    exact taken.sent sent rfl rfl rfl rfl rfl
  | submitCutShort => exact channels.frame rfl rfl rfl (Nat.le_refl _)
  | submitInline => exact channels.inline rfl rfl rfl rfl rfl rfl rfl
  | @submitPooled _ _ _ _ scope _ _ _ _ _ _ usable granted sent =>
    have counted : (picture.modifyScope scope (·.countDispatched.countPooled)).Channels :=
      channels.frame rfl rfl rfl (Nat.le_refl _)
    exact (counted.granted usable granted).sent sent rfl rfl rfl rfl rfl
  | free top running role vacated => exact channels.vacated (by rw [running.running _ role]; rfl) vacated
  | @endLogic activation others work scope outcome saved top running role =>
    have ended := channels.advance
      (fun work => { work with
        phase := .recorded, failed := !outcome.isOk, unwound := (picture.scope scope).unwindsOn outcome })
      (by rw [running.running work role]; rfl) (fun _ _ => rfl) fun _ => ⟨rfl, rfl, rfl, rfl⟩
    exact ended.frame rfl rfl rfl (Nat.le_refl _)
  | @endJob _ activation others work saved top running role kind bare joined vacated =>
    have shifted : (picture.withCrew ({ activation with saved } ::ₘ others)).Channels :=
      channels.frame rfl rfl rfl (Nat.le_refl _)
    exact shifted.vacate (congrArg WorkPhase.isActive (running.running work role)) vacated
  | vacate recorded vacated => exact channels.vacate (by rw [recorded]; rfl) vacated
  | @complete activation others work top role vacated =>
    have counted : (picture.count work).Channels := by
      rw [count]
      split
      · exact channels.frame rfl rfl rfl (Nat.le_refl _)
      · exact channels
    have ended := counted.advance (fun work => { work with phase := .over })
      (by rw [count_work, vacated]; rfl) (fun _ _ => rfl) fun _ => ⟨rfl, rfl, rfl, rfl⟩
    exact ended.frame rfl rfl rfl (Nat.le_refl _)
  | @rest station helper job busy finished empty =>
    refine channels.reslot station (fun slot => { slot with helper := if slot.sender then .idle helper else .absent })
      rfl rfl rfl (Nat.le_refl _) (idle_of_over busy finished) empty empty ?_ ?_ ?_
    · intro other idle
      dsimp only at idle
      split at idle
      · obtain rfl := Helper.idle.inj idle
        exact (channels.busy station _ job busy).1
      · exact absurd idle (by simp)
    · intro other work busy
      dsimp only at busy
      split at busy
      · exact absurd busy (by simp)
      · exact absurd busy (by simp)
    · intro _ cut
      dsimp only at cut ⊢
      rw [cut, if_neg Bool.false_ne_true]
  | next saved busy finished waiting => exact channels.next busy finished waiting rfl rfl rfl rfl
  | @dieAlone station helper job busy finished empty =>
    exact channels.reslot station ({ · with helper := .absent }) rfl rfl rfl (Nat.le_refl _)
      (idle_of_over busy finished) empty empty (fun _ idle => absurd idle (by simp)) (by simp) fun _ _ => rfl
  | die busy finished waiting => exact channels.die busy finished waiting rfl rfl rfl rfl
  | dropPool pool => exact channels.dropPool pool
  | start => exact channels.frame rfl rfl rfl (Nat.le_succ _)
  | finish => exact channels.frame rfl rfl rfl (Nat.le_refl _)

end Channels

end Picture

end ScopedWork
