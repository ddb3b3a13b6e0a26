import ScopedWork.Proofs.Acquisition
import ScopedWork.Proofs.Severance
import ScopedWork.Proofs.Assignments
import ScopedWork.Proofs.Delivery

/-! # A pool that is dropped drains

The drop of a pool cuts the channel of one slot after the other and then waits for the threads of the
helpers that the pool has started. A helper whose channel is cut leaves once it has run what it has and
what waits for it, so when the wait is over every work that was handed to a helper has been run to its end.
Whoever still has a lease of a slot that has been cut runs what is sent through it, and gives the slot back
as ever.
-/

namespace ScopedWork

/-- What happens while a pool is being dropped. -/
inductive Stroke where
  /-- A thread or a helper goes on. -/
  | act (moment : Moment)
  /-- The drop cuts the channel of the next slot. -/
  | cut

/-- Whether the drop has gone on. -/
def Stroke.isCut : Stroke → Bool
  | act _ => false
  | cut => true

/-- How many slots have been cut. -/
def cuts (strokes : List Stroke) : Nat :=
  strokes.countP Stroke.isCut

theorem cuts_cut (strokes : List Stroke) : cuts (.cut :: strokes) = cuts strokes + 1 :=
  List.countP_cons_of_pos rfl

/-- What a process comes to while a pool is being dropped, cuts and actions in any order; the strokes are
listed latest first. -/
inductive Drops (first : System) (pool : PoolId) : List Stroke → System → Prop
  | begin : Drops first pool [] (first.beginShutdown pool)
  | act {strokes : List Stroke} {system : System} {action : Action} : Drops first pool strokes system →
    system.Enabled action → Drops first pool (.act ⟨system, action⟩ :: strokes) (system.perform action)
  | cut {strokes : List Stroke} {system : System} : Drops first pool strokes system →
    cuts strokes < (first.pool pool).capacity →
      Drops first pool (.cut :: strokes) (system.cutSlot { pool, slot := cuts strokes })

/-- The threads that the drop of a pool waits for on a thread: those that the pool has started, but for this one. -/
def awaited (first : System) (pool : PoolId) (me : ThreadId) : List ThreadId :=
  (first.pool pool).workers.filter (· ≠ me)

/-- The rules that hold while a pool is being dropped on a thread. -/
structure InDrop (first : System) (pool : PoolId) (me : ThreadId) (strokes : List Stroke) (system : System) : Prop where
  sound : ∃ events, system.picture.Sound events
  connected : system.picture.Connected
  counted : ∀ id, (system.pool id).Counted
  bound : pool < system.pools.length
  capacity : (system.pool pool).capacity = (first.pool pool).capacity
  dropping : (system.pool pool).Dropping (awaited first pool me) (cuts strokes)

variable {first system : System} {pool : PoolId} {me : ThreadId} {strokes : List Stroke}

namespace InDrop

theorem begin {setting : Setting.State} {history : List Moment} (reached : Reaches (.initial setting) history first)
    (bound : pool < first.pools.length) (live : (first.pool pool).dropped = false)
    (other : ∀ slot ∈ (first.pool pool).slots, slot.helper.thread? ≠ some me) :
    InDrop first pool me [] (first.beginShutdown pool) where
  sound := by
    rw [System.picture_beginShutdown bound]
    exact ⟨_, reached.sound.abandon pool⟩
  connected := by
    rw [System.picture_beginShutdown bound]
    exact reached.connected.abandon pool
  counted id := by
    rw [System.pool_beginShutdown bound]
    split_ifs
    · exact reached.counted id
    · exact reached.counted id
  bound := by rwa [System.beginShutdown, System.modifyPool, List.length_modify]
  capacity := by
    rw [System.pool_beginShutdown bound, if_pos rfl]
    rfl
  dropping := by
    rw [System.pool_beginShutdown bound, if_pos rfl]
    refine ⟨rfl, fun index thread helps => ?_, fun index below => absurd below (Nat.not_lt_zero index)⟩
    refine List.mem_filter.mpr ⟨(reached.lives bound).known live index thread helps, decide_eq_true ?_⟩
    rintro rfl
    have helped : ((first.pool pool).slot index).helper.thread? = some thread := helps
    exact other _ (List.mem_of_getElem? (Pool.slots_getElem? (Pool.lt_of_helps helped))) helped

theorem act {action : Action} (inDrop : InDrop first pool me strokes system) (enabled : system.Enabled action) :
    InDrop first pool me (.act ⟨system, action⟩ :: strokes) (system.perform action) := by
  obtain ⟨events, sound⟩ := inDrop.sound
  have step := System.step_perform sound enabled
  have deals := System.deals_perform sound enabled
  have stocks := System.stocks_perform sound enabled
  obtain ⟨bound, after⟩ := deals.kept pool inDrop.bound
  refine ⟨⟨_, sound.step step⟩, inDrop.connected.step sound.leasing step, fun id => ?_, bound, ?_, ?_⟩
  · by_cases there : id < system.pools.length
    · exact (stocks.kept id there).counted (inDrop.counted id)
    · exact stocks.made id there
  · exact (stocks.kept pool inDrop.bound).capacity_eq.trans inDrop.capacity
  · rw [after]
    refine inDrop.dropping.undergoAll ?_
    cases dealt : system.dealing action with
    | none => trivial
    | some dealing =>
      obtain ⟨place, deeds⟩ := dealing
      rw [System.dealtTo]
      split_ifs with here
      · exact here ▸ System.apt_perform sound inDrop.connected enabled dealt
      · trivial

theorem cut (inDrop : InDrop first pool me strokes system) :
    InDrop first pool me (.cut :: strokes) (system.cutSlot { pool, slot := cuts strokes }) := by
  obtain ⟨events, sound⟩ := inDrop.sound
  have dropped : system.picture.dropped pool = true := inDrop.dropping.dropped
  have read (id : PoolId) : (system.cutSlot { pool, slot := cuts strokes }).pool id =
      if id = pool then (system.pool id).modifySlot (cuts strokes) Slot.cut else system.pool id := by
    rw [System.pool, System.pools_cutSlot, ← System.pool, System.pool_modifyPool]
    by_cases here : id = pool
    · rw [if_pos ⟨here, inDrop.bound⟩, if_pos here]
    · rw [if_neg fun both => here both.1, if_neg here]
  constructor
  case sound =>
    rw [System.picture_cutSlot]
    exact ⟨_, sound.cut dropped⟩
  case connected =>
    rw [System.picture_cutSlot]
    exact inDrop.connected.cut dropped
  case counted =>
    intro id
    rw [read]
    split_ifs
    · have step : (system.pool id).Step ((system.pool id).modifySlot (cuts strokes) Slot.cut) :=
        .modifySlot _ fun _ => rfl
      exact step.counted (inDrop.counted id)
    · exact inDrop.counted id
  case bound =>
    rw [System.pools_cutSlot, System.modifyPool, List.length_modify]
    exact inDrop.bound
  case capacity =>
    rw [read, if_pos rfl]
    exact (List.length_modify ..).trans inDrop.capacity
  case dropping =>
    rw [read, if_pos rfl]
    refine inDrop.dropping.of_fades dropped (fun index => ?_) fun index below beyond => ?_
    · exact Pool.fades_modifySlot (cuts strokes) index (Slot.fades_cut _)
    · have here : index = cuts strokes := by
        rw [cuts_cut] at below
        omega
      rw [here, Pool.slot_modifySlot]
      split_ifs with inside
      · exact ⟨rfl, fun _ => Slot.cut_ne_idle⟩
      · rw [Pool.slot_of_not_lt _ fun lower => inside ⟨rfl, lower⟩]
        exact ⟨rfl, Helper.absent_ne_idle⟩

end InDrop

theorem Drops.inDrop {setting : Setting.State} {history : List Moment}
    (reached : Reaches (.initial setting) history first) (bound : pool < first.pools.length)
    (live : (first.pool pool).dropped = false)
    (other : ∀ slot ∈ (first.pool pool).slots, slot.helper.thread? ≠ some me)
    (drops : Drops first pool strokes system) : InDrop first pool me strokes system := by
  induction drops with
  | begin => exact .begin reached bound live other
  | act _ enabled ih => exact ih.act enabled
  | cut _ _ ih => exact ih.cut

theorem cuts_replicate (count : Nat) : cuts (List.replicate count .cut) = count := by
  rw [cuts, List.countP_replicate]
  rfl

/-- A drop that nothing comes in between is the one step in which the machine takes it. -/
theorem Drops.whole (first : System) (pool : PoolId) :
    Drops first pool (List.replicate (first.pool pool).capacity .cut) (first.perform (.dropPool pool)) := by
  have some_cuts (count : Nat) (within : count ≤ (first.pool pool).capacity) :
      Drops first pool (List.replicate count .cut) ((first.beginShutdown pool).cutSlots pool count) := by
    induction count with
    | zero => exact .begin
    | succ count ih =>
      have next := (ih (Nat.le_of_lt within)).cut (by rwa [cuts_replicate])
      rwa [cuts_replicate, ← System.cutSlots_succ] at next
  rw [System.perform, System.shutdown_eq]
  exact some_cuts _ (Nat.le_refl _)

/-- What was done while a pool was being dropped was done to a process in which it was being dropped. -/
theorem Drops.before {later earlier : List Stroke} {moment : Moment}
    (drops : Drops first pool (later ++ .act moment :: earlier) system) :
    Drops first pool earlier moment.before ∧ moment.before.Enabled moment.action := by
  induction later generalizing system with
  | nil =>
    cases drops with
    | act drops enabled => exact ⟨drops, enabled⟩
  | cons stroke rest ih =>
    cases drops with
    | act drops => exact ih drops
    | cut drops => exact ih drops

/-! ## When the drop is over -/

/-- Whether a work was handed to a helper of a pool: one runs it or has run it, or it waits in the channel of one. -/
def Work.IsHandedTo (work : Work) (pool : PoolId) : Prop :=
  (∃ lease, work.station = some lease ∧ lease.pool = pool) ∧
    (work.placement = .queued ∨ ∃ helper, work.placement = .helper helper)

/-- The drop of a pool returns to a thread once every slot has been cut and every thread that the pool has
started has left, but for this one. -/
structure HasReturned (first : System) (pool : PoolId) (me : ThreadId) (strokes : List Stroke) (system : System) :
    Prop where
  cut : cuts strokes = (first.pool pool).capacity
  joined : ∀ thread ∈ (first.pool pool).workers, thread ≠ me →
    ∀ index, ((system.pool pool).slot index).helper.thread? ≠ some thread

/-- What the drop of a pool on a thread comes to. -/
structure Drain (first : System) (pool : PoolId) (me : ThreadId) (strokes : List Stroke) (system : System) : Prop where
  /-- To wait for the threads one after the other is to wait until the pool is drained. -/
  drained : HasReturned first pool me strokes system ↔
    cuts strokes = (first.pool pool).capacity ∧ (system.pool pool).isDrained me = true
  /-- No helper is left when the drop returns. -/
  empty : HasReturned first pool me strokes system → ∀ index, ((system.pool pool).slot index).helper = .absent
  /-- Every work that was handed to a helper, before the drop or during it, has been run to its end by one, unless
  helpers die: one that has died before may have taken along what waited for it. -/
  finished : HasReturned first pool me strokes system →
    (∀ before station, .act ⟨before, .die station⟩ ∈ strokes → station.pool ≠ pool) →
      ∀ work < system.works.length, (system.work work).IsHandedTo pool → (first.work work).phase ≠ .discarded →
        (system.work work).phase = .over ∧
          ∃ helper, (system.work work).placement = .helper helper ∧ (system.work work).runs = [helper]
  /-- The drop waits for nothing but works that are being run: a helper whose work is over goes on. -/
  awaits : cuts strokes = (first.pool pool).capacity → ¬ HasReturned first pool me strokes system →
    ∃ slot helper job, ((system.pool pool).slot slot).helper = .busy helper job ∧
      ((system.work job).phase.isActive = true ∨ system.Enabled (.next { pool, slot }))
  /-- What is sent through a lease of a slot that has been cut is run once, by the thread that sends it. -/
  inlined : ∀ later earlier before thread name lease,
    strokes = later ++ .act ⟨before, .dispatch thread name⟩ :: earlier →
      before.lease? thread name = some lease →
      lease.pool = pool → lease.slot < cuts earlier →
        before.works.length < system.works.length ∧
        (system.work before.works.length).station = some lease ∧
        (system.work before.works.length).placement = .returned ∧
        (system.work before.works.length).phase.hasBegun = true ∧
        (system.work before.works.length).runs = [thread]
  /-- To drop such a lease frees its slot and no other. -/
  freed : ∀ later earlier before thread name lease,
    strokes = later ++ .act ⟨before, .dropLease thread name⟩ :: earlier →
      before.lease? thread name = some lease →
      lease.pool = pool → lease.slot < cuts earlier →
        before.Frees (before.perform (.dropLease thread name)) lease

namespace InDrop

theorem absent (inDrop : InDrop first pool me strokes system) (returned : HasReturned first pool me strokes system)
    (index : Nat) : ((system.pool pool).slot index).helper = .absent := by
  have gone (thread : ThreadId) : ((system.pool pool).slot index).helper.thread? ≠ some thread := fun helps => by
    obtain ⟨known, ne⟩ := List.mem_filter.mp (inDrop.dropping.known index thread helps)
    exact returned.joined thread known (of_decide_eq_true ne) index helps
  cases found : ((system.pool pool).slot index).helper with
  | absent => rfl
  | idle thread | busy thread => exact absurd (congrArg Helper.thread? found) (gone thread)

/-- The drop returns when the pool is drained. -/
theorem hasReturned_iff (inDrop : InDrop first pool me strokes system) : HasReturned first pool me strokes system ↔
    cuts strokes = (first.pool pool).capacity ∧ (system.pool pool).isDrained me = true := by
  rw [Pool.isDrained_iff]
  constructor
  · intro returned
    refine ⟨returned.cut, fun index thread helps => ?_⟩
    rw [inDrop.absent returned index] at helps
    exact absurd helps.symm (Option.some_ne_none thread)
  · rintro ⟨cut, drained⟩
    exact ⟨cut, fun thread _ ne index helps => ne (drained index thread helps)⟩

/-- A helper that the drop waits for runs a work, or is about to turn to its channel. -/
theorem awaits (inDrop : InDrop first pool me strokes system) (cut : cuts strokes = (first.pool pool).capacity)
    (waits : ¬ HasReturned first pool me strokes system) :
    ∃ slot helper job, ((system.pool pool).slot slot).helper = .busy helper job ∧
      ((system.work job).phase.isActive = true ∨ system.Enabled (.next { pool, slot })) := by
  obtain ⟨events, sound⟩ := inDrop.sound
  rw [inDrop.hasReturned_iff, Pool.isDrained_iff] at waits
  push Not at waits
  obtain ⟨slot, helper, helps, -⟩ := waits cut
  have inside : slot < cuts strokes := by
    rw [cut, ← inDrop.capacity]
    exact Pool.lt_of_helps helps
  cases found : ((system.pool pool).slot slot).helper with
  | absent =>
    rw [found] at helps
    exact absurd helps.symm (Option.some_ne_none helper)
  | idle thread => exact absurd found ((inDrop.dropping.severed slot inside).2 thread)
  | busy thread job =>
    have begun := (sound.channels.busy { pool, slot } thread job found).2.begun
    refine ⟨slot, thread, job, found, ?_⟩
    cases phase : (system.work job).phase with
    | waiting | discarded =>
      have same : (system.picture.work job).phase = (system.work job).phase := rfl
      rw [same, phase] at begun
      exact absurd begun Bool.false_ne_true
    | running | recorded | vacated => exact .inl rfl
    | _ =>
      refine .inr ?_
      have helper : (system.station { pool, slot }).helper = .busy thread job := found
      simp [System.Enabled, System.hasEnded, helper, phase]

end InDrop

/-! ## Works -/

/-- Works that go on from one process to another. -/
structure System.Carries (system after : System) : Prop where
  length_le : system.works.length ≤ after.works.length
  onward : ∀ work < system.works.length, (system.work work).Onward (after.work work)
  submitter : ∀ work < system.works.length, (after.work work).submitter = (system.work work).submitter

namespace System.Carries

variable {middle after : System} {events : List Event}

theorem of_works (works : after.works = system.works) : system.Carries after where
  length_le := Nat.le_of_eq (congrArg List.length works.symm)
  onward work _ := by
    rw [System.work, System.work, works]
    exact .refl _
  submitter work _ := by rw [System.work, works, System.work]

theorem trans (first : system.Carries middle) (second : middle.Carries after) : system.Carries after where
  length_le := Nat.le_trans first.length_le second.length_le
  onward work bound := (first.onward work bound).trans (second.onward work (Nat.lt_of_lt_of_le bound first.length_le))
  submitter work bound :=
    (second.submitter work (Nat.lt_of_lt_of_le bound first.length_le)).trans (first.submitter work bound)

theorem perform (sound : system.picture.Sound events) {action : Action} (enabled : system.Enabled action) :
    system.Carries (system.perform action) where
  length_le := (System.step_perform sound enabled).continues.length_le
  onward := (System.step_perform sound enabled).continues.kept
  submitter _ bound := ((System.assigns_perform sound enabled).keeps bound).same.submitter

end System.Carries

theorem System.works_cutSlot (system : System) (lease : Lease) : (system.cutSlot lease).works = system.works :=
  congrArg Picture.works (system.picture_cutSlot lease)

/-- What is sent through a slot that has been cut is begun by the thread that sends it. -/
theorem System.dispatch_severed {thread : ThreadId} {name : String} {lease : Lease}
    (held : system.lease? thread name = some lease) (severed : (system.station lease).sender = false) :
    ∃ sent, (system.perform (.dispatch thread name)).works = system.works ++ [sent] ∧ sent.station = some lease ∧
      sent.placement = .returned ∧ sent.phase.hasBegun = true ∧ sent.submitter = thread := by
  obtain ⟨sent, works, same, -, begun, placed, -⟩ := @System.works_send (system.takeLease thread name) thread lease
    (pooledWork .job thread ((system.takeLease thread name).activation thread).within lease none) none
  have returned : sent.placement = .returned := by
    have cut : ((system.pool lease.pool).slot lease.slot).sender = false := severed
    rw [placed]
    change ((system.pool lease.pool).dispatch lease.slot system.works.length).1.placement = .returned
    simp only [Pool.dispatch, cut, Bool.false_eq_true, ↓reduceIte]
    rfl
  refine ⟨sent, ?_, same.station, returned, begun (by rw [returned]; exact Placement.noConfusion), same.submitter⟩
  simp only [System.perform, System.withLease, held, Option.elim_some]
  exact works

section Drop

variable {setting : Setting.State} {history : List Moment} {later earlier : List Stroke} {moment : Moment}
  (reached : Reaches (.initial setting) history first) (bound : pool < first.pools.length)
  (live : (first.pool pool).dropped = false)
    (other : ∀ slot ∈ (first.pool pool).slots, slot.helper.thread? ≠ some me)
include reached bound live other

/-- Works go on from any moment of the drop. -/
theorem Drops.carries (drops : Drops first pool (later ++ .act moment :: earlier) system) :
    (moment.before.perform moment.action).Carries system := by
  induction later generalizing system with
  | nil =>
    cases drops with
    | act => exact .of_works rfl
  | cons stroke rest ih =>
    cases drops with
    | act drops enabled =>
      obtain ⟨events, sound⟩ := (drops.inDrop reached bound live other).sound
      exact (ih drops).trans (.perform sound enabled)
    | cut drops => exact (ih drops).trans (.of_works (System.works_cutSlot ..))

/-- A work is lost while a pool is being dropped only if the helper dies in whose channel it waits. -/
theorem Drops.lost (drops : Drops first pool strokes system) {work : WorkId}
    (discarded : (system.work work).phase = .discarded) : (first.work work).phase = .discarded ∨
      ∃ later earlier before station, strokes = later ++ .act ⟨before, .die station⟩ :: earlier ∧
        (before.station station).waiting = some work := by
  induction drops with
  | begin => exact .inl discarded
  | @act strokes system action drops enabled ih =>
    obtain ⟨events, sound⟩ := (drops.inDrop reached bound live other).sound
    rcases ((System.step_perform sound enabled).discarded work).mp discarded with before | died
    · refine (ih before).imp_right ?_
      rintro ⟨later, earlier, before, station, rfl, waiting⟩
      exact ⟨_ :: later, earlier, before, station, rfl, waiting⟩
    · obtain ⟨moment, member, station, dies, waiting⟩ : HasBeenLost [⟨system, action⟩] work :=
        HasBeenLost.iff_event.mpr (List.mem_singleton.mpr died.symm)
      obtain rfl := List.mem_singleton.mp member
      obtain rfl := dies
      exact .inr ⟨[], strokes, system, station, rfl, waiting⟩
  | @cut strokes system drops inside ih =>
    rw [System.work, System.works_cutSlot] at discarded
    refine (ih discarded).imp_right ?_
    rintro ⟨later, earlier, before, station, rfl, waiting⟩
    exact ⟨_ :: later, earlier, before, station, rfl, waiting⟩

/-- A work that was handed to a helper is over once no helper is left, if it is not lost. -/
theorem Drops.finished (drops : Drops first pool strokes system)
    (returned : HasReturned first pool me strokes system)
    (alive : ∀ before station, .act ⟨before, .die station⟩ ∈ strokes → station.pool ≠ pool) {work : WorkId}
    (there : work < system.works.length) (handed : (system.work work).IsHandedTo pool)
    (kept : (first.work work).phase ≠ .discarded) : (system.work work).phase = .over ∧
      ∃ helper, (system.work work).placement = .helper helper ∧ (system.work work).runs = [helper] := by
  have inDrop := drops.inDrop reached bound live other
  obtain ⟨events, sound⟩ := inDrop.sound
  obtain ⟨⟨lease, place, here⟩, placed⟩ := handed
  have absent (lease : Lease) (here : lease.pool = pool) : (system.station lease).helper = .absent := by
    rw [System.station, here]
    exact inDrop.absent returned lease.slot
  have once (begun : (system.work work).phase.hasBegun = true) :
      ∃ helper, (system.work work).placement = .helper helper ∧ (system.work work).runs = [helper] := by
    rcases sound.channels.begun work begun with ⟨helper, placement, runs⟩ | ⟨inline, -⟩
    · exact ⟨helper, placement, runs⟩
    · change (system.work work).placement = .inline ∨ (system.work work).placement = .returned at inline
      rcases placed with queued | ⟨helper, placed⟩ <;> rcases inline with inline | inline <;> simp_all
  have vacant {helper : ThreadId} {job : WorkId} (busy : (system.station lease).helper = .busy helper job) : False := by
    rw [absent lease here] at busy
    cases busy
  have active (active : (system.work work).phase.isActive = true) : False := by
    obtain ⟨helper, placement, -⟩ := once (WorkPhase.hasBegun_of_isActive active)
    obtain ⟨lease', place', busy⟩ := sound.channels.running work helper active placement
    obtain rfl := Option.some.inj (place.symm.trans place')
    exact vacant busy
  cases phase : (system.work work).phase with
  | running | recorded | vacated => exact (active (by rw [phase]; rfl)).elim
  | waiting =>
    obtain ⟨lease', waiting⟩ := sound.channels.queued work there phase
    have place' := (sound.channels.waits lease' work waiting).place
    obtain rfl := Option.some.inj (place.symm.trans place')
    have empty := sound.channels.quiet lease fun helper job => vacant
    exact absurd (waiting.symm.trans empty) (Option.some_ne_none work)
  | discarded =>
    rcases drops.lost reached bound live other phase with before | ⟨later, earlier, before, station, split, waiting⟩
    · exact absurd before kept
    · -- the slot in whose channel it was lost is one of this pool
      subst split
      obtain ⟨during, enabled⟩ := drops.before
      obtain ⟨events, sound⟩ := (during.inDrop reached bound live other).sound
      have waits := sound.channels.waits station work waiting
      have onward := (System.Carries.perform sound enabled).trans (drops.carries reached bound live other)
      have same := (onward.onward work waits.bound).station
      obtain rfl := Option.some.inj (waits.place.symm.trans (same.symm.trans place))
      exact absurd here (alive before station (List.mem_append_right _ List.mem_cons_self))
  | _ => exact ⟨rfl, once (by rw [phase]; rfl)⟩

theorem Drops.inlined {before : System} {thread : ThreadId} {name : String} {lease : Lease}
    (drops : Drops first pool (later ++ .act ⟨before, .dispatch thread name⟩ :: earlier) system)
    (held : before.lease? thread name = some lease) (here : lease.pool = pool) (cut : lease.slot < cuts earlier) :
    before.works.length < system.works.length ∧
      (system.work before.works.length).station = some lease ∧
      (system.work before.works.length).placement = .returned ∧
      (system.work before.works.length).phase.hasBegun = true ∧
      (system.work before.works.length).runs = [thread] := by
  obtain ⟨during, enabled⟩ := drops.before
  have inDrop := during.inDrop reached bound live other
  obtain ⟨events, sound⟩ := inDrop.sound
  have severed : (before.station lease).sender = false := by
    rw [System.station, here]
    exact (inDrop.dropping.severed lease.slot cut).1
  obtain ⟨sent, works, place, placed, begun, submitter⟩ := System.dispatch_severed held severed
  have carries := drops.carries reached bound live other
  have added : before.works.length < (before.perform (.dispatch thread name)).works.length := by
    rw [works, List.length_append, List.length_singleton]
    exact Nat.lt_succ_self _
  have read : (before.perform (.dispatch thread name)).work before.works.length = sent := by
    rw [System.work_of_append works, if_pos rfl]
  have onward := carries.onward _ added
  have same := carries.submitter _ added
  rw [read] at onward same
  obtain ⟨begun, placement⟩ := onward.begun begun
  obtain ⟨events, sound⟩ := (drops.inDrop reached bound live other).sound
  refine ⟨Nat.lt_of_lt_of_le added carries.length_le, onward.station.trans place, placement.trans placed, begun, ?_⟩
  rcases sound.channels.begun _ begun with ⟨helper, helps, -⟩ | ⟨-, runs⟩
  · exact Placement.noConfusion (helps.symm.trans (placement.trans placed))
  · exact runs.trans (congrArg (fun thread => [thread]) (same.trans submitter))

theorem Drops.freed {before : System} {thread : ThreadId} {name : String} {lease : Lease}
    (drops : Drops first pool (later ++ .act ⟨before, .dropLease thread name⟩ :: earlier) system)
    (held : before.lease? thread name = some lease) : before.Frees (before.perform (.dropLease thread name)) lease := by
  obtain ⟨during, enabled⟩ := drops.before
  have inDrop := during.inDrop reached bound live other
  obtain ⟨events, sound⟩ := inDrop.sound
  exact System.frees_dropLease sound inDrop.counted enabled held

end Drop

/-- A pool that is dropped on a thread that is none of its helpers drains before the drop returns, whatever runs
and waits and whatever is done meanwhile, and a slot that has been cut sends back what is sent through it. -/
theorem drop_drains {setting : Setting.State} {history : List Moment}
    (reached : Reaches (.initial setting) history first) (bound : pool < first.pools.length)
    (live : (first.pool pool).dropped = false)
    (other : ∀ slot ∈ (first.pool pool).slots, slot.helper.thread? ≠ some me)
    (drops : Drops first pool strokes system) : Drain first pool me strokes system where
  drained := (drops.inDrop reached bound live other).hasReturned_iff
  empty := (drops.inDrop reached bound live other).absent
  finished returned alive _ there := drops.finished reached bound live other returned alive there
  awaits := (drops.inDrop reached bound live other).awaits
  inlined later earlier before thread name lease split held := by
    subst split
    exact drops.inlined reached bound live other held
  freed later earlier before thread name lease split held _ _ := by
    subst split
    exact drops.freed reached bound live other held

/-! ## A drop with work underway -/

namespace System

/-- Goes on with a drop as a plan says, an action or the next cut at a time. -/
def goOn (pool : PoolId) : (system : System) → (strokes : List Stroke) → List (Option Action) →
    List Stroke × System
  | system, strokes, [] => (strokes, system)
  | system, strokes, some action :: rest =>
    (system.perform action).goOn pool (.act ⟨system, action⟩ :: strokes) rest
  | system, strokes, none :: rest =>
    (system.cutSlot { pool, slot := cuts strokes }).goOn pool (.cut :: strokes) rest

/-- Whether a drop of a pool with so many slots can go on as a plan says. -/
def canGoOn (pool : PoolId) (capacity : Nat) : (system : System) → (cuts : Nat) → List (Option Action) → Bool
  | _, _, [] => true
  | system, cuts, some action :: rest =>
    decide (system.Enabled action) && (system.perform action).canGoOn pool capacity cuts rest
  | system, cuts, none :: rest =>
    decide (cuts < capacity) && (system.cutSlot { pool, slot := cuts }).canGoOn pool capacity (cuts + 1) rest

end System

theorem Drops.goOn (drops : Drops first pool strokes system) {plan : List (Option Action)}
    (allowed : system.canGoOn pool (first.pool pool).capacity (cuts strokes) plan = true) :
    Drops first pool (system.goOn pool strokes plan).1 (system.goOn pool strokes plan).2 := by
  induction plan generalizing system strokes with
  | nil => exact drops
  | cons next rest ih =>
    cases next with
    | some action =>
      simp only [System.canGoOn, Bool.and_eq_true, decide_eq_true_eq] at allowed
      exact ih (drops.act allowed.1) allowed.2
    | none =>
      simp only [System.canGoOn, Bool.and_eq_true, decide_eq_true_eq] at allowed
      exact ih (drops.cut allowed.1) (by rw [cuts_cut]; exact allowed.2)

/-- A job has given its lease up and runs, another one waits behind it, and a thread has leases of the two other
slots that it has not used. -/
def workUnderway : List Action :=
  [.makePool 3 {}, .acquire 0 0 3 "first", .dispatch 0 "first", .free 1, .acquire 0 0 1 "second", .dispatch 0 "second",
    .acquire 0 0 3 "third", .acquire 0 0 3 "fourth", .start 0 "other" false, .passLease 0 4 "third",
    .passLease 0 4 "fourth"]

/-- Once the first slot has been cut, a job is sent through the second one; once they all have, a job is sent
through the third. Then the jobs end. -/
def dropUnderway : List (Option Action) :=
  [none, some (.dispatch 4 "third"), none, none, some (.dispatch 4 "fourth"), some (.endJob 1), some (.complete 1),
    some (.next { pool := 0, slot := 0 }), some (.endJob 1), some (.complete 1), some (.next { pool := 0, slot := 0 }),
    some (.endJob 2), some (.complete 2), some (.next { pool := 0, slot := 1 })]

theorem drop_drains_workUnderway :
    let first := (System.initial { hardware := 1 }).performAll workUnderway
    let ended := (first.beginShutdown 0).goOn 0 [] dropUnderway
    0 < first.pools.length ∧ (first.pool 0).dropped = false ∧ Drops first 0 ended.1 ended.2 ∧
      Drain first 0 0 ended.1 ended.2 ∧ HasReturned first 0 0 ended.1 ended.2 ∧
      (ended.2.works.map (·.runs)) = [[1], [1], [2], [4]] := by
  have allowed : (System.initial { hardware := 1 }).allows workUnderway = true := by decide
  have reached := Reaches.start.performAll allowed
  let first := (System.initial { hardware := 1 }).performAll workUnderway
  have bound : 0 < first.pools.length := by decide
  have live : (first.pool 0).dropped = false := by decide
  have other : ∀ slot ∈ (first.pool 0).slots, slot.helper.thread? ≠ some 0 := by decide
  have planned : (first.beginShutdown 0).canGoOn 0 (first.pool 0).capacity 0 dropUnderway = true := by decide
  have begun : Drops first 0 [] (first.beginShutdown 0) := .begin
  have drops := begun.goOn planned
  have drain := drop_drains reached bound live other drops
  exact ⟨bound, live, drops, drain, drain.drained.mpr ⟨by decide, by decide⟩, by decide⟩

end ScopedWork
