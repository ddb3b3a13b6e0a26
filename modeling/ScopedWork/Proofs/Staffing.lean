import ScopedWork.Proofs.Recovery

/-! # How many helpers a pool starts

Slots are leased from the first on, so the slot that is leased next is never further up than there are
leases; and a slot gets a helper when it is first leased, and another only after the death of the one
it had has been discovered. The slots that have had a helper are therefore the first ones, as many as
there have been leases at a time, and every further start replaces a helper that was found dead.
-/

namespace ScopedWork

namespace Pool

variable {Job : Type} {pool : Pool Job} {course : List (Occasion Job)}

/-- The pools that a course has led through, latest first. -/
def stages (course : List (Occasion Job)) (pool : Pool Job) : List (Pool Job) :=
  pool :: course.map (·.before)

/-- The most leases that have been live at a time. -/
def peak (course : List (Occasion Job)) (pool : Pool Job) : Nat :=
  (stages course pool).foldr (fun stage most => max stage.busy most) 0

def HasHadHelper (course : List (Occasion Job)) (pool : Pool Job) (index : Nat) : Prop :=
  ∃ stage ∈ stages course pool, (stage.slot index).helper ≠ .absent

def Occasion.starts? (occasion : Occasion Job) : Option Nat :=
  match occasion.deed with
  | .acquire limit thread =>
    match (occasion.before.tryAcquire limit thread).1 with
    | .ok (some acquired) => if acquired.started then some acquired.slot else none
    | .ok none | .error _ => none
  | .release _ | .dispatch _ _ | .next _ | .die _ | .bar _ _ | .shutdown => none

/-- How many acquisitions have started a helper for a slot whose helper had been found dead. -/
def replacements : List (Occasion Job) → Nat
  | [] => 0
  | occasion :: earlier =>
    replacements earlier + match occasion.starts? with
      | some index => if .foundDead ∈ lifeline earlier index then 1 else 0
      | none => 0

theorem peak_cons (course : List (Occasion Job)) (before after : Pool Job) (deed : Deed Job) :
    peak (⟨before, deed⟩ :: course) after = max after.busy (peak course before) :=
  rfl

theorem busy_le_peak (course : List (Occasion Job)) (pool : Pool Job) : pool.busy ≤ peak course pool :=
  Nat.le_max_left _ _

/-! ## Counting leases -/

theorem leased_of_lt_leastFree? {limit index other : Nat} (found : pool.leastFree? limit = some index)
    (below : other < index) : (pool.slot other).leased = true := by
  obtain ⟨within, -, least⟩ := List.findIdx?_eq_some_iff_getElem.mp found
  have inside : other < pool.slots.length := Nat.lt_trans below (pool.leastFree?_eq_some found).1
  have leased := least other below
  rw [List.getElem_take] at leased
  rw [slot, List.getElem?_eq_getElem inside, Option.getD_some]
  simpa using leased

/-- If only the first slots are leased, there are no more leases than those. -/
theorem busy_le_of_leased (counted : pool.Counted) {bound : Nat}
    (below : ∀ index, (pool.slot index).leased = true → index < bound) : pool.busy ≤ bound := by
  rw [counted, ← length_leasedSlots, ← List.length_range (n := bound)]
  refine (List.subperm_of_subset pool.nodup_leasedSlots fun index member => ?_).length_le
  exact List.mem_range.mpr (below index (pool.mem_leasedSlots.mp member))

/-- If the first slots are leased, there are at least as many leases. -/
theorem le_busy_of_leased (counted : pool.Counted) {bound : Nat}
    (leased : ∀ index < bound, (pool.slot index).leased = true) : bound ≤ pool.busy := by
  rw [counted, ← length_leasedSlots, ← List.length_range (n := bound)]
  refine (List.subperm_of_subset List.nodup_range fun index member => ?_).length_le
  exact pool.mem_leasedSlots.mpr (leased index (List.mem_range.mp member))

/-! ## Deeds that lease nothing -/

/-- A deed that is no acquisition leases no slot, and starts no helper. -/
theorem undergo_of_not_acquire {deed : Deed Job} (other : ∀ limit thread, deed ≠ .acquire limit thread) :
    (pool.undergo deed).busy ≤ pool.busy ∧ (pool.undergo deed).spawned = pool.spawned ∧
      ∀ index, ((pool.undergo deed).slot index).leased = true → (pool.slot index).leased = true := by
  have modified {place : Nat} {change : Slot Job → Slot Job}
      (fewer : ∀ slot, (change slot).leased = true → slot.leased = true) (index : Nat)
      (leased : ((pool.modifySlot place change).slot index).leased = true) : (pool.slot index).leased = true := by
    rw [slot_modifySlot] at leased
    split_ifs at leased
    · exact fewer _ leased
    · exact leased
  cases deed with
  | acquire limit thread => exact absurd rfl (other limit thread)
  | release place => exact ⟨Nat.sub_le _ _, rfl, modified fun _ => Bool.noConfusion⟩
  | dispatch place job =>
    simp only [undergo, dispatch]
    split
    · split
      · exact ⟨Nat.le_refl _, rfl, modified fun _ => id⟩
      · exact ⟨Nat.le_refl _, rfl, modified fun _ => id⟩
      · exact ⟨Nat.le_refl _, rfl, modified fun _ => id⟩
      · exact ⟨Nat.le_refl _, rfl, fun _ => id⟩
    · exact ⟨Nat.le_refl _, rfl, fun _ => id⟩
  | next place =>
    simp only [undergo, nextJob]
    split
    · exact ⟨Nat.le_refl _, rfl, modified fun _ => id⟩
    · exact ⟨Nat.le_refl _, rfl, modified fun _ => id⟩
    · exact ⟨Nat.le_refl _, rfl, fun _ => id⟩
    · exact ⟨Nat.le_refl _, rfl, fun _ => id⟩
  | die place => exact ⟨Nat.le_refl _, rfl, modified fun _ => id⟩
  | bar place barred => exact ⟨Nat.le_refl _, rfl, modified fun _ => id⟩
  | shutdown =>
    refine ⟨Nat.le_refl _, rfl, fun index => ?_⟩
    rw [slot_shutdown]
    exact id

/-! ## The slots that have had a helper -/

theorem starts?_cold {place limit : Nat} {thread : ThreadId} {after : Pool Job}
    (had : pool.tryAcquire limit thread = (.ok (some { slot := place, started := true }), after)) :
    Occasion.starts? ⟨pool, .acquire limit thread⟩ = some place := by
  simp only [Occasion.starts?, had, ↓reduceIte]

/-- A slot has had a helper once something has befallen one. -/
theorem Lives.hasHadHelper_iff (lives : Lives course pool) (index : Nat) :
    HasHadHelper course pool index ↔ lifeline course index ≠ [] := by
  induction lives with
  | make capacity config stackBound =>
    simp only [HasHadHelper, stages, List.map_nil, List.mem_singleton, exists_eq_left, slot_ofConfig]
    exact iff_of_false (fun present => present rfl) (fun some_yet => some_yet rfl)
  | @undergo course pool deed lives apt ih =>
    have after := ((lives.undergo apt).fits index).1
    have had : HasHadHelper (⟨pool, deed⟩ :: course) (pool.undergo deed) index ↔
        ((pool.undergo deed).slot index).helper ≠ .absent ∨ HasHadHelper course pool index := by
      simp only [HasHadHelper, stages, List.map_cons, List.mem_cons, exists_eq_or_imp]
    rw [had, ih]
    constructor
    · rintro (present | earlier)
      · intro none_yet
        cases found : ((pool.undergo deed).slot index).helper with
        | absent => exact present found
        | idle thread =>
          have latest := after.helps thread (by rw [found]; rfl)
          rw [none_yet] at latest
          exact Option.some_ne_none _ latest.symm
        | busy thread job =>
          have latest := after.helps thread (by rw [found]; rfl)
          rw [none_yet] at latest
          exact Option.some_ne_none _ latest.symm
      · rw [lifeline_cons]
        exact fun none_yet => earlier (List.append_eq_nil_iff.mp none_yet).2
    · intro some_yet
      by_cases earlier : lifeline course index = []
      · left
        obtain ⟨limit, thread, rfl, found, -, had⟩ := lives.started_of_first apt earlier some_yet
        rw [Pool.undergo, had, slot_spawn_lease, if_pos ⟨rfl, (pool.leastFree?_eq_some found).1⟩]
        simp
      · exact .inr earlier

/-! ## One deed -/

/-- The slots with a past are the first ones, as many as there have been leases at a time; none is leased
beyond them; and every start beyond their number was a replacement. -/
structure Manned (course : List (Occasion Job)) (pool : Pool Job) : Prop where
  first : ∀ index, lifeline course index ≠ [] ↔ index < peak course pool
  leased : ∀ index, (pool.slot index).leased = true → index < peak course pool
  spawned : pool.spawned = peak course pool + replacements course

/-- A deed that starts no helper and takes the leases no further keeps the slots manned. -/
theorem Manned.stays (manned : Manned course pool) (lives : Lives course pool) {deed : Deed Job} (apt : pool.Apt deed)
    (quiet : Occasion.starts? ⟨pool, deed⟩ = none) (same : (pool.undergo deed).spawned = pool.spawned)
    (leased : ∀ index, ((pool.undergo deed).slot index).leased = true → index < peak course pool) :
    Manned (⟨pool, deed⟩ :: course) (pool.undergo deed) := by
  have peak : peak (⟨pool, deed⟩ :: course) (pool.undergo deed) = peak course pool :=
    Nat.max_eq_right (busy_le_of_leased (lives.undergo apt).counted leased)
  refine ⟨fun index => ?_, fun index => ?_, ?_⟩
  · rw [peak, ← manned.first]
    constructor
    · intro after before
      obtain ⟨limit, thread, rfl, -, -, had⟩ := lives.started_of_first apt before after
      rw [starts?_cold had] at quiet
      exact Option.some_ne_none index quiet
    · intro before after
      rw [lifeline_cons] at after
      exact before (List.append_eq_nil_iff.mp after).2
  · rw [peak]
    exact leased index
  · rw [peak, same, manned.spawned, replacements, quiet]
    rfl

theorem event?_cold {place limit : Nat} {thread : ThreadId} {after : Pool Job} (index : Nat)
    (had : pool.tryAcquire limit thread = (.ok (some { slot := place, started := true }), after)) :
    Occasion.event? ⟨pool, .acquire limit thread⟩ index =
      if place = index then some (.started thread) else none := by
  simp only [Occasion.event?, had, true_and]

/-- A helper is started for a slot that has had one: it replaces one that was found dead. -/
theorem Manned.replace (manned : Manned course pool) (lives : Lives course pool) {limit place : Nat} {thread : ThreadId}
    (live : pool.dropped = false) (dead : (lifeline course place).head? = some .foundDead)
    (had : pool.tryAcquire limit thread =
      (.ok (some { slot := place, started := true }), (pool.lease place).spawn place thread)) :
    Manned (⟨pool, .acquire limit thread⟩ :: course) (pool.undergo (.acquire limit thread)) := by
  have after : pool.undergo (.acquire limit thread) = (pool.lease place).spawn place thread := by rw [undergo, had]
  have there : .foundDead ∈ lifeline course place := List.mem_of_head? dead
  have below : place < peak course pool := (manned.first place).mp (List.ne_nil_of_mem there)
  have leased (index : Nat) (leased : ((pool.undergo (.acquire limit thread)).slot index).leased = true) :
      index < peak course pool := by
    rw [after, slot_spawn_lease] at leased
    split_ifs at leased with here
    · rwa [here.1]
    · exact manned.leased index leased
  have later : Lives (⟨pool, .acquire limit thread⟩ :: course) (pool.undergo (.acquire limit thread)) :=
    lives.undergo live
  have peak : peak (⟨pool, .acquire limit thread⟩ :: course) (pool.undergo (.acquire limit thread)) =
    peak course pool :=
    Nat.max_eq_right (busy_le_of_leased later.counted leased)
  refine ⟨fun index => ?_, fun index => ?_, ?_⟩
  · rw [peak, ← manned.first, lifeline_cons, event?_cold index had]
    split_ifs with here
    · subst here
      exact iff_of_true (List.cons_ne_nil _ _) (List.ne_nil_of_mem there)
    · rfl
  · rw [peak]
    exact leased index
  · have spawned : (pool.undergo (.acquire limit thread)).spawned = pool.spawned + 1 := by
      rw [after]
      rfl
    rw [peak, spawned, manned.spawned, replacements, starts?_cold had]
    simp only [there, ↓reduceIte]
    omega

/-- A helper is started for a slot that has had none: all slots before it are leased, and it is the first
one without a past. -/
theorem Manned.begin (manned : Manned course pool) (lives : Lives course pool) {limit place : Nat} {thread : ThreadId}
    (found : pool.leastFree? limit = some place) (none_yet : lifeline course place = [])
    (had : pool.tryAcquire limit thread =
      (.ok (some { slot := place, started := true }), (pool.lease place).spawn place thread)) :
    Manned (⟨pool, .acquire limit thread⟩ :: course) (pool.undergo (.acquire limit thread)) := by
  have after : pool.undergo (.acquire limit thread) = (pool.lease place).spawn place thread := by rw [undergo, had]
  have beyond : ¬ place < peak course pool := fun below => (manned.first place).mpr below none_yet
  have filled : place ≤ pool.busy :=
    le_busy_of_leased lives.counted fun index below => leased_of_lt_leastFree? found below
  have most := busy_le_peak course pool
  have busy : (pool.undergo (.acquire limit thread)).busy = pool.busy + 1 := by
    rw [after]
    rfl
  have spawned : (pool.undergo (.acquire limit thread)).spawned = pool.spawned + 1 := by
    rw [after]
    rfl
  have peak : peak (⟨pool, .acquire limit thread⟩ :: course) (pool.undergo (.acquire limit thread)) = place + 1 ∧
      place = peak course pool := by
    rw [peak_cons, busy]
    omega
  obtain ⟨peak, last⟩ := peak
  refine ⟨fun index => ?_, fun index leased => ?_, ?_⟩
  · rw [peak, Nat.lt_succ_iff_lt_or_eq, lifeline_cons, event?_cold index had]
    split_ifs with here
    · exact iff_of_true (List.cons_ne_nil _ _) (.inr here.symm)
    · rw [last, ← manned.first, ← last]
      exact ⟨.inl, fun either => either.elim id fun same => absurd same.symm here⟩
  · rw [peak]
    rw [after, slot_spawn_lease] at leased
    split_ifs at leased with here
    · omega
    · have below := manned.leased index leased
      omega
  · have fresh : .foundDead ∉ lifeline course place := by
      rw [none_yet]
      exact List.not_mem_nil
    rw [peak, spawned, manned.spawned, replacements, starts?_cold had, ← last]
    simp only [fresh, ↓reduceIte]
    omega

theorem Manned.acquire (manned : Manned course pool) (lives : Lives course pool) {limit : Nat} {thread : ThreadId}
    (live : pool.dropped = false) :
    Manned (⟨pool, .acquire limit thread⟩ :: course) (pool.undergo (.acquire limit thread)) := by
  rcases pool.tryAcquire_shapes limit thread with ⟨same, missed⟩
    | ⟨place, found, ⟨warm, had⟩ | ⟨cold, -, had⟩⟩
  · have quiet : Occasion.starts? ⟨pool, .acquire limit thread⟩ = none := by
      simp only [Occasion.starts?]
      split
      · rename_i acquired had
        exact absurd had (missed acquired)
      · rfl
      · rfl
    refine manned.stays lives live quiet (by rw [undergo, same]) fun index leased => ?_
    rw [undergo, same] at leased
    exact manned.leased index leased
  · -- whoever can be sent a job was started once
    have told := (lives.fits place).1.live live
    have had_one : lifeline course place ≠ [] := by
      intro none_yet
      rw [none_yet, warm] at told
      exact Bool.noConfusion told.1
    have below := (manned.first place).mp had_one
    refine manned.stays lives live (by simp [Occasion.starts?, had]) (by rw [undergo, had]; rfl) fun index leased => ?_
    rw [undergo, had, slot_lease] at leased
    split_ifs at leased with here
    · rwa [here.1]
    · exact manned.leased index leased
  · have told := (lives.fits place).1.live live
    rw [cold] at told
    split at told
    · exact absurd told.1 Bool.false_ne_true
    · exact absurd told.1 Bool.false_ne_true
    · rename_i dead
      exact manned.replace lives live dead had
    · rename_i none_yet
      exact manned.begin lives found (List.head?_eq_none_iff.mp none_yet) had

theorem Lives.manned (lives : Lives course pool) : Manned course pool := by
  induction lives with
  | make capacity config stackBound =>
    refine ⟨fun index => iff_of_false (fun some_yet => some_yet rfl) (Nat.not_lt_zero index),
      fun index leased => ?_, rfl⟩
    rw [slot_ofConfig] at leased
    exact absurd leased Bool.false_ne_true
  | @undergo course pool deed lives apt ih =>
    by_cases acquires : ∃ limit thread, deed = .acquire limit thread
    · obtain ⟨limit, thread, rfl⟩ := acquires
      exact ih.acquire lives apt
    · have other (limit : Nat) (thread : ThreadId) : deed ≠ .acquire limit thread :=
        fun same => acquires ⟨limit, thread, same⟩
      obtain ⟨-, spawned, leased⟩ := @undergo_of_not_acquire _ pool deed other
      refine ih.stays lives apt ?_ spawned fun index held => ih.leased index (leased index held)
      cases deed with
      | acquire limit thread => exact absurd rfl (other limit thread)
      | release | dispatch | next | die | bar | shutdown => rfl

/-! ## Pools whose helpers have all stayed alive -/

theorem replacements_eq_zero (deathless : ∀ index, .foundDead ∉ lifeline course index) :
    replacements course = 0 := by
  induction course with
  | nil => rfl
  | cons occasion earlier ih =>
    have before (index : Nat) : .foundDead ∉ lifeline earlier index := fun member => deathless index (by
      rw [lifeline_cons]
      exact List.mem_append_right _ member)
    rw [replacements, ih before]
    cases occasion.starts? with
    | none => rfl
    | some index => simp only [before index, ↓reduceIte]

/-- Every death in a lifeline was done to the pool. -/
theorem deed_of_died {index : Nat} (died : .died ∈ lifeline course index) :
    ∃ occasion ∈ course, occasion.deed = .die index := by
  obtain ⟨⟨before, deed⟩, member, event⟩ := List.mem_filterMap.mp died
  refine ⟨_, member, ?_⟩
  rcases event?_cases event with ⟨_, _, other, -⟩ | ⟨-, die⟩ | ⟨_, other, -⟩
  · cases other
  · exact die
  · cases other

end Pool

/-! ## Every run -/

/-- A helper dies only when an action says so. -/
theorem System.die_of_mem_deeds {system : System} {id : PoolId} {action : Action} {index : Nat}
    (member : .die index ∈ system.deeds id action) : action = .die { pool := id, slot := index } := by
  -- an action that gives one lease back or uses one does a single deed
  have other (found : Option Lease) (deed : Lease → Pool.Deed WorkId) (ne : ∀ lease, deed lease ≠ .die index)
      (member : .die index ∈ dealtTo id (found.map fun lease => (lease.pool, [deed lease]))) : False := by
    cases found with
    | none => exact List.not_mem_nil member
    | some lease =>
      simp only [Option.map_some, dealtTo] at member
      split_ifs at member
      · exact ne lease (List.mem_singleton.mp member).symm
      · exact List.not_mem_nil member
  cases action with
  | die station =>
    obtain ⟨place, slot⟩ := station
    simp only [deeds, dealing, dealtTo] at member
    split_ifs at member with here
    · subst here
      rcases List.mem_cons.mp member with same | lost
      · rw [Pool.Deed.die.inj same]
      · split at lost
        · simp at lost
        · exact absurd lost List.not_mem_nil
    · exact absurd member List.not_mem_nil
  | submit thread scope =>
    simp only [deeds, dealing, dealtTo] at member
    split_ifs at member
    · rcases List.mem_cons.mp member with same | sent
      · cases same
      · split at sent
        · simp at sent
        · exact absurd sent List.not_mem_nil
        · exact absurd sent List.not_mem_nil
    · exact absurd member List.not_mem_nil
  | dispatch thread name =>
    exact (other _ (fun lease => .dispatch lease.slot system.works.length) (by simp) member).elim
  | dropLease | free | endJob | vacate => exact (other _ (fun lease => .release lease.slot) (by simp) member).elim
  | acquire | next | bar | dropPool =>
    simp only [deeds, dealing, dealtTo] at member
    split_ifs at member
    · simp at member
    · exact absurd member List.not_mem_nil
  | enter | enterIn | reduce | beginExit | beginDrop | leave | attach | detach | passLease | endLogic | complete
  | makePool | makeRoot | makeFactory | reroute | register | configure | start
  | finish => exact absurd member List.not_mem_nil

theorem die_of_died {pool : PoolId} {index : Nat} {history : List Moment}
    (died : .died ∈ Pool.lifeline (course pool history) index) :
    ∃ moment ∈ history, moment.action = .die { pool, slot := index } := by
  obtain ⟨occasion, member, deed⟩ := Pool.deed_of_died died
  obtain ⟨moment, during, part⟩ := deed_of_mem_course member
  exact ⟨moment, during, System.die_of_mem_deeds (deed ▸ part)⟩

/-- Which helpers a pool has had: the slots that ever had one are the first ones, as many as there have been leases at
a time, and all other helpers that were started replaced one that had been found dead. -/
structure Staffed (history : List Moment) (system : System) (pool : PoolId) : Prop where
  first : ∀ index, Pool.HasHadHelper (course pool history) (system.pool pool) index ↔
    index < Pool.peak (course pool history) (system.pool pool)
  spawned : (system.pool pool).spawned =
    Pool.peak (course pool history) (system.pool pool) + Pool.replacements (course pool history)
  /-- While no helper dies, helpers are started for the most leases there have been at a time, and no others. -/
  alive : (∀ moment ∈ history, ∀ index, moment.action ≠ .die { pool, slot := index }) →
    (system.pool pool).spawned = Pool.peak (course pool history) (system.pool pool)

/-- At every point of every run, whatever happened to the leases and the helpers of a pool, no helper was started
without need. -/
theorem helpers_asNeeded {setting : Setting.State} {history : List Moment} {system : System}
    (reached : Reaches (.initial setting) history system) {pool : PoolId} (there : pool < system.pools.length) :
    Staffed history system pool := by
  have lives := reached.lives there
  refine ⟨fun index => (lives.hasHadHelper_iff index).trans (lives.manned.first index), lives.manned.spawned,
    fun alive => ?_⟩
  have deathless (index : Nat) : .foundDead ∉ Pool.lifeline (course pool history) index := by
    intro dead
    have deaths := count_foundDead_le (lives.fits index).2
    have found := List.count_pos_iff.mpr dead
    obtain ⟨moment, member, died⟩ := die_of_died (List.count_pos_iff.mp (Nat.lt_of_lt_of_le found deaths))
    exact alive moment member index died
  rw [lives.manned.spawned, Pool.replacements_eq_zero deathless, Nat.add_zero]

/-- Two leases at a time, the first of them given back and taken again; the helper of the first slot dies, a job
comes back, and a third helper is started in its place. -/
def leasesAndReplaces : List Action :=
  [.makePool 3 {}, .acquire 0 0 3 "a", .acquire 0 0 3 "b", .dropLease 0 "a", .acquire 0 0 1 "a",
    .dispatch 0 "a", .endJob 1,
    .complete 1, .die { pool := 0, slot := 0 }, .acquire 0 0 1 "a", .dispatch 0 "a", .endJob 0, .complete 0,
    .bar { pool := 0, slot := 0 } true, .acquire 0 0 3 "a", .bar { pool := 0, slot := 0 } false, .acquire 0 0 3 "a"]

theorem helpers_asNeeded_leasesAndReplaces :
    let first := System.initial { hardware := 1 }
    let system := first.performAll leasesAndReplaces
    let history := first.moments [] leasesAndReplaces
    Reaches first history system ∧ 0 < system.pools.length ∧ Staffed history system 0 ∧
      Pool.peak (course 0 history) (system.pool 0) = 2 ∧ Pool.replacements (course 0 history) = 1 ∧
      (system.pool 0).spawned = 3 := by
  have allowed : (System.initial { hardware := 1 }).allows leasesAndReplaces = true := by decide
  have reached := Reaches.start.performAll allowed
  exact ⟨reached, by decide, helpers_asNeeded reached (by decide), by decide, by decide, by decide⟩

end ScopedWork
