import ScopedWork.Proofs.Lifelines

/-! # Cutting the channels of a pool one by one

To drop a pool is not one step. The drop cuts the channel of one slot after the other, and in between
threads and helpers go on: a job may reach the helper of a slot that is still connected while the next one
is sent back. Here the drop is taken apart into its cuts. The rules of accounting hold between any two of
them, and cuts with nothing in between come to what the whole drop does.
-/

namespace ScopedWork

/-! ## Slots -/

/-- How a slot fares in a pool that nobody can lease slots of: a helper may leave but none comes, the channel
is not connected again, and once it has been cut no helper comes to rest. -/
structure Slot.Fades {Job : Type} (before after : Slot Job) : Prop where
  helper : ∀ thread, after.helper.thread? = some thread → before.helper.thread? = some thread
  sender : before.sender = false → after.sender = false
  leaves : before.sender = false → (∀ thread, before.helper ≠ .idle thread) →
    ∀ thread, after.helper ≠ .idle thread

theorem Slot.Fades.refl {Job : Type} (slot : Slot Job) : slot.Fades slot :=
  ⟨fun _ => id, id, fun _ => id⟩

/-- A change that concerns neither the channel's end nor the helper. -/
theorem Slot.Fades.of_same {Job : Type} {before after : Slot Job} (sender : after.sender = before.sender)
    (helper : after.helper = before.helper) : before.Fades after :=
  ⟨fun thread => by rw [helper]; exact id, fun cut => sender.trans cut, fun _ => by rw [helper]; exact id⟩

theorem Slot.fades_cut {Job : Type} (slot : Slot Job) : slot.Fades slot.cut where
  helper _ := slot.thread?_cut
  sender _ := rfl
  leaves _ := by
    intro busy thread
    cases found : slot.helper with
    | idle other => exact absurd found (busy other)
    | absent | busy => simp [cut, found]

theorem Helper.absent_ne_idle {Job : Type} (thread : ThreadId) : (Helper.absent : Helper Job) ≠ .idle thread := by
  simp only [ne_eq, reduceCtorEq, not_false_eq_true]

theorem Helper.busy_ne_idle {Job : Type} (helper : ThreadId) (job : Job) (thread : ThreadId) :
    Helper.busy helper job ≠ .idle thread := by
  simp only [ne_eq, reduceCtorEq, not_false_eq_true]

namespace Pool

variable {Job : Type} {pool : Pool Job} {workers : List ThreadId} {cuts index : Nat}

/-- A change of one slot that lets it fade. -/
theorem fades_modifySlot (place index : Nat) {change : Slot Job → Slot Job}
    (fades : (pool.slot place).Fades (change (pool.slot place))) :
    (pool.slot index).Fades ((pool.modifySlot place change).slot index) := by
  rw [slot_modifySlot]
  split_ifs with here
  · rw [here.1]
    exact fades
  · exact .refl _

/-- Whatever is done to a pool but leasing its slots lets them fade. -/
theorem fades_undergo {deed : Deed Job} (unleased : ∀ limit thread, deed ≠ .acquire limit thread) (index : Nat) :
    (pool.slot index).Fades ((pool.undergo deed).slot index) := by
  cases deed with
  | acquire limit thread => exact absurd rfl (unleased limit thread)
  | release place => exact fades_modifySlot place index (.of_same rfl rfl)
  | dispatch place job =>
    simp only [undergo, dispatch]
    split
    · split
      · exact fades_modifySlot place index ⟨fun _ => id, fun _ => rfl, fun _ => id⟩
      · rename_i helper idle
        refine fades_modifySlot place index ⟨fun thread helps => ?_, id, fun _ _ => Helper.busy_ne_idle _ _⟩
        rw [idle]
        exact helps
      · exact fades_modifySlot place index (.of_same rfl rfl)
      · exact .refl _
    · exact .refl _
  | next place =>
    simp only [undergo, nextJob]
    split
    · rename_i helper job _ next busy _
      refine fades_modifySlot place index ⟨fun thread helps => ?_, id, fun _ _ => Helper.busy_ne_idle _ _⟩
      rw [busy]
      exact helps
    · rename_i helper job busy _
      refine fades_modifySlot place index ⟨fun thread helps => ?_, id, fun cut _ thread => ?_⟩
      · rw [busy]
        split at helps
        · exact helps
        · exact absurd helps.symm (Option.some_ne_none thread)
      · rw [cut]
        exact Helper.absent_ne_idle thread
    · exact .refl _
    · exact .refl _
  | die place =>
    refine fades_modifySlot place index ⟨fun thread helps => ?_, id, fun _ _ => Helper.absent_ne_idle⟩
    exact absurd helps.symm (Option.some_ne_none thread)
  | bar place barred => exact fades_modifySlot place index (.of_same rfl rfl)
  | shutdown =>
    rw [slot_shutdown]
    exact (pool.slot index).fades_cut

/-! ## Pools -/

theorem lt_of_helps {thread : ThreadId} (helps : (pool.slot index).helper.thread? = some thread) :
    index < pool.slots.length := by
  by_contra beyond
  rw [slot_of_not_lt pool beyond] at helps
  exact absurd helps.symm (Option.some_ne_none thread)

/-- A pool is drained when no thread helps it but perhaps the one that asks. -/
theorem isDrained_iff (me : ThreadId) : pool.isDrained me = true ↔
    ∀ index thread, (pool.slot index).helper.thread? = some thread → thread = me := by
  rw [isDrained, List.all_eq_true]
  constructor
  · intro drained index thread helps
    have alone := drained _ (List.mem_of_getElem? (slots_getElem? (lt_of_helps helps)))
    cases found : (pool.slot index).helper with
    | absent =>
      rw [found] at helps
      exact absurd helps.symm (Option.some_ne_none thread)
    | idle helper | busy helper =>
      rw [found] at helps
      simp only [found, beq_iff_eq] at alone
      exact (Option.some.inj helps).symm.trans alone
  · intro drained slot member
    obtain ⟨index, inside, rfl⟩ := List.getElem_of_mem member
    have read : pool.slot index = pool.slots[index] := by
      rw [Pool.slot, List.getElem?_eq_getElem inside, Option.getD_some]
    have alone := drained index
    rw [read] at alone
    cases found : pool.slots[index].helper with
    | absent => rfl
    | idle helper | busy helper => exact beq_iff_eq.mpr (alone helper (by rw [found]; rfl))

/-- A pool that is being dropped: its helpers are among the threads to wait for, and the channels of its
first slots have been cut. -/
structure Dropping (pool : Pool Job) (workers : List ThreadId) (cuts : Nat) : Prop where
  dropped : pool.dropped = true
  known : ∀ index thread, (pool.slot index).helper.thread? = some thread → thread ∈ workers
  severed : ∀ index < cuts, (pool.slot index).sender = false ∧ ∀ thread, (pool.slot index).helper ≠ .idle thread

namespace Dropping

/-- A change that lets every slot fade and may cut the next one. -/
theorem of_fades {after : Pool Job} {more : Nat} (dropping : pool.Dropping workers cuts)
    (dropped : after.dropped = true) (fades : ∀ index, (pool.slot index).Fades (after.slot index))
    (severed : ∀ index < more, ¬ index < cuts →
      (after.slot index).sender = false ∧ ∀ thread, (after.slot index).helper ≠ .idle thread) :
    after.Dropping workers more where
  dropped := dropped
  known index thread helps := dropping.known index thread ((fades index).helper thread helps)
  severed index below := by
    by_cases before : index < cuts
    · obtain ⟨cut, busy⟩ := dropping.severed index before
      exact ⟨(fades index).sender cut, (fades index).leaves cut busy⟩
    · exact severed index below before

theorem undergo {deed : Deed Job} (dropping : pool.Dropping workers cuts) (apt : pool.Apt deed) :
    (pool.undergo deed).Dropping workers cuts := by
  have unleased (limit : Nat) (thread : ThreadId) : deed ≠ .acquire limit thread := by
    rintro rfl
    exact Bool.false_ne_true (apt.symm.trans dropping.dropped)
  refine dropping.of_fades ?_ (fades_undergo unleased) fun index below beyond => absurd below beyond
  by_cases goesOn : deed = .shutdown
  · rw [goesOn]
    rfl
  · rw [dropped_undergo goesOn]
    exact dropping.dropped

theorem undergoAll {deeds : List (Deed Job)} (dropping : pool.Dropping workers cuts) (apt : pool.AptAll deeds) :
    (deeds.foldl Pool.undergo pool).Dropping workers cuts := by
  induction deeds generalizing pool with
  | nil => exact dropping
  | cons deed rest ih => exact ih (dropping.undergo apt.1) apt.2

end Dropping

/-- A pool does not lose sight of a thread before it is dropped. -/
theorem workers_undergo {deed : Deed Job} (goesOn : deed ≠ .shutdown) {thread : ThreadId}
    (known : thread ∈ pool.workers) : thread ∈ (pool.undergo deed).workers := by
  cases deed with
  | acquire limit started =>
    rcases pool.tryAcquire_shapes limit started with ⟨same, -⟩ | ⟨place, -, ⟨-, had⟩ | ⟨-, -, had⟩⟩
    · rwa [undergo, same]
    · rw [undergo, had]
      exact known
    · rw [undergo, had]
      exact List.mem_append_left _ known
  | dispatch place job =>
    simp only [undergo, dispatch]
    split
    · split <;> exact known
    · exact known
  | next place =>
    simp only [undergo, nextJob]
    split <;> exact known
  | release | die | bar => exact known
  | shutdown => exact absurd rfl goesOn

/-- A helper that is started is a thread that the pool is to wait for. -/
theorem known_undergo {deed : Deed Job} (goesOn : deed ≠ .shutdown)
    (known : ∀ index thread, (pool.slot index).helper.thread? = some thread → thread ∈ pool.workers)
    {thread : ThreadId} (helps : ((pool.undergo deed).slot index).helper.thread? = some thread) :
    thread ∈ (pool.undergo deed).workers := by
  cases deed with
  | acquire limit started =>
    rcases pool.tryAcquire_shapes limit started with ⟨same, -⟩ | ⟨place, found, ⟨-, had⟩ | ⟨-, -, had⟩⟩
    · rw [undergo, same] at helps ⊢
      exact known index thread helps
    · rw [undergo, had] at helps ⊢
      have fades : (pool.slot index).Fades ((pool.lease place).slot index) :=
        fades_modifySlot place index (.of_same rfl rfl)
      exact known index thread (fades.helper thread helps)
    · rw [undergo, had] at helps ⊢
      rw [slot_spawn_lease] at helps
      split_ifs at helps with here
      · exact List.mem_append_right _ (List.mem_singleton.mpr (Option.some.inj helps).symm)
      · exact List.mem_append_left _ (known index thread helps)
  | release | dispatch | next | die | bar =>
    exact workers_undergo goesOn (known index thread ((fades_undergo (by simp) index).helper thread helps))
  | shutdown => exact absurd rfl goesOn

/-- While a pool is in use, it knows the threads of its helpers. -/
theorem Lives.known {course : List (Occasion Job)} (lives : Lives course pool) (live : pool.dropped = false)
    (index : Nat) (thread : ThreadId) (helps : (pool.slot index).helper.thread? = some thread) :
    thread ∈ pool.workers := by
  induction lives generalizing index thread with
  | make capacity config stackBound =>
    rw [slot_ofConfig] at helps
    exact absurd helps.symm (Option.some_ne_none thread)
  | @undergo course pool deed lives apt ih =>
    have goesOn : deed ≠ .shutdown := by
      rintro rfl
      exact Bool.noConfusion live
    rw [dropped_undergo goesOn] at live
    exact known_undergo goesOn (ih live) helps

end Pool

namespace Picture

variable {picture : Picture} {events : List Event}

/-! ## The rules between two cuts -/

/-- Nothing refers to a pool any more, but its channels are still connected. -/
theorem Sound.abandon (sound : picture.Sound events) (pool : PoolId) :
    Sound { picture with dropped := Function.update picture.dropped pool true } (.other :: events) where
  tenancy := sound.tenancy.of_same (fun _ => ⟨rfl, rfl, rfl⟩) rfl
  running := sound.running.of_same rfl fun _ => .inl rfl
  leasing := ⟨sound.leasing.single, sound.leasing.names, sound.leasing.spent⟩
  channels := by
    refine sound.channels.restation rfl (Nat.le_refl _) (fun _ => rfl) (fun _ _ _ => Iff.rfl) (fun _ _ => id) ?_
    intro lease live
    by_cases here : lease.pool = pool
    · exact absurd (live.symm.trans (here ▸ Function.update_self ..)) Bool.false_ne_true
    · exact sound.channels.cut lease ((Function.update_of_ne here true picture.dropped).symm.trans live)
  ledger := sound.ledger.of_eq rfl rfl

/-- One channel of a pool that nothing refers to is cut. -/
theorem Sound.cut (sound : picture.Sound events) {lease : Lease} (dropped : picture.dropped lease.pool = true) :
    (picture.modifyStation lease Slot.cut).Sound (.other :: events) where
  tenancy := sound.tenancy.of_same (fun _ => ⟨rfl, rfl, rfl⟩) rfl
  running := sound.running.of_same rfl fun _ => .inl rfl
  leasing := sound.leasing.modifyStation lease Slot.cut rfl
  channels := by
    have read (other : Lease) : (picture.modifyStation lease Slot.cut).station other =
        if other = lease then (picture.station other).cut else picture.station other := by
      by_cases here : other = lease
      · rw [if_pos here, here]
        exact Function.update_self ..
      · rw [if_neg here]
        exact Function.update_of_ne here ..
    refine sound.channels.restation rfl (Nat.le_refl _) (fun other => ?_) (fun other helper job => ?_)
      (fun other helper => ?_) fun other live => ?_
    · rw [read]
      split_ifs <;> rfl
    · rw [read]
      split_ifs
      · cases found : (picture.station other).helper <;> simp [Slot.cut, found]
      · exact Iff.rfl
    · rw [read]
      split_ifs
      · exact fun idle => absurd idle Slot.cut_ne_idle
      · exact id
    · have ne : other ≠ lease := by
        rintro rfl
        exact Bool.false_ne_true (live.symm.trans dropped)
      rw [read, if_neg ne]
      exact sound.channels.cut other live
  ledger := sound.ledger.of_eq rfl rfl

theorem Connected.abandon (connected : picture.Connected) (pool : PoolId) :
    Connected { picture with dropped := Function.update picture.dropped pool true } := by
  refine connected.of_same (fun one member lease holds => ⟨one, member, holds⟩) (fun lease live => ?_) fun _ _ => id
  by_cases here : lease.pool = pool
  · exact absurd (live.symm.trans (here ▸ Function.update_self ..)) Bool.false_ne_true
  · exact (Function.update_of_ne here true picture.dropped).symm.trans live

theorem Connected.cut (connected : picture.Connected) {lease : Lease} (dropped : picture.dropped lease.pool = true) :
    (picture.modifyStation lease Slot.cut).Connected := by
  refine connected.of_same (fun one member other holds => ⟨one, member, holds⟩) (fun _ live => live)
    fun other live => ?_
  have ne : other ≠ lease := by
    rintro rfl
    exact Bool.false_ne_true (live.symm.trans dropped)
  exact fun connected => (congrArg Slot.sender (Function.update_of_ne ne ..)).trans connected

end Picture

namespace System

variable {system : System} {events : List Event} {pool : PoolId} {workers : List ThreadId} {cuts : Nat}

/-! ## The drop of a pool, cut by cut -/

/-- The drop of a pool begins: nothing refers to it any more, and the threads to wait for are the drop's. -/
def beginShutdown (system : System) (pool : PoolId) : System :=
  system.modifyPool pool ({ · with workers := [], dropped := true })

def idleHelper? (slot : Slot WorkId) : Option ThreadId :=
  match slot.helper with
  | .idle thread => some thread
  | .absent | .busy _ _ => none

/-- The drop cuts the channel of a slot. A helper that waits there is gone at once. -/
def cutSlot (system : System) (lease : Lease) : System :=
  (idleHelper? (system.station lease)).elim id (fun thread system => system.retire thread)
    (system.modifyPool lease.pool (·.modifySlot lease.slot Slot.cut))

def cutSlots (system : System) (pool : PoolId) (count : Nat) : System :=
  (List.range count).foldl (fun system slot => system.cutSlot { pool, slot }) system

theorem cutSlots_succ (system : System) (pool : PoolId) (count : Nat) :
    system.cutSlots pool (count + 1) = (system.cutSlots pool count).cutSlot { pool, slot := count } := by
  rw [cutSlots, List.range_succ, List.foldl_append]
  rfl

theorem foldl_retire_modifyPool (threads : List ThreadId) (system : System) (pool : PoolId)
    (change : Pool WorkId → Pool WorkId) : (threads.foldl retire system).modifyPool pool change =
      threads.foldl retire (system.modifyPool pool change) := by
  induction threads generalizing system with
  | nil => rfl
  | cons thread rest ih => exact ih (system.retire thread)

theorem modifyPool_modifyPool (system : System) (pool : PoolId) (first second : Pool WorkId → Pool WorkId) :
    (system.modifyPool pool first).modifyPool pool second = system.modifyPool pool (second ∘ first) :=
  congrArg (fun pools => { system with pools }) (List.modify_modify_eq first second pool system.pools)

/-- What a pool is when the channels of its first slots have been cut. -/
def partlyCut (count : Nat) (pool : Pool WorkId) : Pool WorkId :=
  { pool with
    slots := pool.slots.mapIdx fun index slot => if index < count then slot.cut else slot
    workers := []
    dropped := true }

theorem partlyCut_zero (pool : Pool WorkId) : partlyCut 0 pool = { pool with workers := [], dropped := true } := by
  have same : pool.slots.mapIdx (fun index slot => if index < 0 then slot.cut else slot) = pool.slots := by
    simp only [Nat.not_lt_zero, ↓reduceIte, List.mapIdx_eq_zipIdx_map]
    exact List.zipIdx_map_fst 0 pool.slots
  rw [partlyCut, same]

theorem partlyCut_succ (count : Nat) (pool : Pool WorkId) :
    (partlyCut count pool).modifySlot count Slot.cut = partlyCut (count + 1) pool := by
  have slots : (partlyCut count pool).slots.modify count Slot.cut = (partlyCut (count + 1) pool).slots := by
    apply List.ext_getElem?
    intro place
    rw [List.getElem?_modify, partlyCut, partlyCut, List.getElem?_mapIdx, List.getElem?_mapIdx]
    cases pool.slots[place]? with
    | none => rfl
    | some slot =>
      rcases Nat.lt_trichotomy place count with below | rfl | above
      · simp [below, Nat.lt_succ_of_lt below, Nat.ne_of_gt below]
      · simp
      · simp [Nat.not_lt.mpr (Nat.le_of_lt above), Nat.not_lt.mpr above, Nat.ne_of_lt above]
  rw [Pool.modifySlot, slots]
  rfl

theorem partlyCut_capacity (pool : Pool WorkId) : partlyCut pool.capacity pool = pool.shutdown := by
  have slots : pool.slots.mapIdx (fun index slot => if index < pool.capacity then slot.cut else slot) =
      pool.slots.map Slot.cut := by
    apply List.ext_getElem?
    intro place
    rw [List.getElem?_mapIdx, List.getElem?_map]
    by_cases inside : place < pool.slots.length
    · simp [inside, Pool.capacity]
    · rw [List.getElem?_eq_none (Nat.le_of_not_lt inside)]
      rfl
  rw [partlyCut, slots, Pool.shutdown]

theorem cutSlots_eq (system : System) (pool : PoolId) {count : Nat} (within : count ≤ (system.pool pool).capacity) :
    (system.beginShutdown pool).cutSlots pool count =
      (((system.pool pool).slots.take count).filterMap idleHelper?).foldl retire
        (system.modifyPool pool (partlyCut count)) := by
  induction count with
  | zero =>
    refine (modifyPool_congr ?_ : system.beginShutdown pool = system.modifyPool pool (partlyCut 0))
    rw [partlyCut_zero]
  | succ count ih =>
    have inside : count < (system.pool pool).slots.length := within
    have bound : pool < system.pools.length := by
      by_contra beyond
      rw [pool_of_not_lt beyond] at inside
      exact Nat.not_lt_zero _ inside
    let opened := (((system.pool pool).slots.take count).filterMap idleHelper?).foldl retire
      (system.modifyPool pool (partlyCut count))
    have uncut : opened.station { pool, slot := count } = (system.pool pool).slot count := by
      have read : opened.pool pool = partlyCut count (system.pool pool) := by
        rw [System.pool, pools_foldl_retire, ← System.pool, pool_modifyPool, if_pos ⟨rfl, bound⟩]
      rw [station, read, Pool.slot, partlyCut, List.getElem?_mapIdx, Pool.slots_getElem? inside]
      simp
    have cut : opened.modifyPool pool (·.modifySlot count Slot.cut) =
        (((system.pool pool).slots.take count).filterMap idleHelper?).foldl retire
          (system.modifyPool pool (partlyCut (count + 1))) := by
      have both : (system.modifyPool pool (partlyCut count)).modifyPool pool (·.modifySlot count Slot.cut) =
          system.modifyPool pool (partlyCut (count + 1)) := by
        rw [modifyPool_modifyPool]
        exact modifyPool_congr (partlyCut_succ count (system.pool pool))
      rw [foldl_retire_modifyPool, both]
    rw [cutSlots_succ, ih (Nat.le_of_lt within), cutSlot, uncut, cut, List.take_add_one, Pool.slots_getElem? inside,
      List.filterMap_append, List.foldl_append]
    cases found : idleHelper? ((system.pool pool).slot count) <;> simp [found]

/-- The drop of a pool cuts the channels of all its slots. -/
theorem shutdown_eq (system : System) (pool : PoolId) :
    system.shutdown pool = (system.beginShutdown pool).cutSlots pool (system.pool pool).capacity := by
  have all : (system.pool pool).slots.take (system.pool pool).capacity = (system.pool pool).slots := List.take_length
  rw [cutSlots_eq system pool (Nat.le_refl _), all, ← modifyPool_congr (partlyCut_capacity (system.pool pool)).symm]
  rfl

theorem pool_beginShutdown (bound : pool < system.pools.length) (other : PoolId) :
    (system.beginShutdown pool).pool other =
      if other = pool then { system.pool other with workers := [], dropped := true } else system.pool other := by
  rw [beginShutdown, pool_modifyPool]
  by_cases here : other = pool
  · rw [if_pos ⟨here, bound⟩, if_pos here]
  · rw [if_neg fun both => here both.1, if_neg here]

theorem picture_beginShutdown (bound : pool < system.pools.length) : (system.beginShutdown pool).picture =
    { system.picture with dropped := Function.update system.picture.dropped pool true } := by
  refine Picture.ext rfl rfl rfl (funext fun lease => ?_) (funext fun other => ?_) rfl
  · change (system.beginShutdown pool).station lease = system.station lease
    rw [station, pool_beginShutdown bound]
    split_ifs <;> rfl
  · change ((system.beginShutdown pool).pool other).dropped = Function.update system.picture.dropped pool true other
    rw [pool_beginShutdown bound, Function.update_apply]
    split_ifs <;> rfl

theorem pools_cutSlot (system : System) (lease : Lease) :
    (system.cutSlot lease).pools = (system.modifyPool lease.pool (·.modifySlot lease.slot Slot.cut)).pools := by
  rw [cutSlot]
  cases idleHelper? (system.station lease) <;> rfl

theorem picture_cutSlot (system : System) (lease : Lease) :
    (system.cutSlot lease).picture = system.picture.modifyStation lease Slot.cut := by
  have slots : (system.modifyPool lease.pool (·.modifySlot lease.slot Slot.cut)).picture =
      system.picture.modifyStation lease Slot.cut := picture_modifyPool _ (.inr rfl) rfl rfl
  rw [cutSlot]
  cases idleHelper? (system.station lease) with
  | none => exact slots
  | some helper => exact (picture_retire helper).trans slots

end System

end ScopedWork
