import Mathlib.Order.Bounds.Basic
import ScopedWork.Proofs.Courses
import ScopedWork.Proofs.Occupancy

/-! # Acquiring a lease and dropping it

An attempt to lease a slot looks for the least free one below its limit and gets that one or none: it
never goes on to another when a helper cannot be started. A slot is marked and counted before its helper
is looked after, so an attempt that fails after all gives the lease back that it has begun to take; it
leaves the process as it was. A lease that is never used keeps its slot, whatever is leased and freed
beside it, until it is dropped.
-/

namespace ScopedWork

open Failure (Payload)

namespace Pool

variable {Job : Type} {pool : Pool Job} {limit index : Nat}

/-- Whether a slot is below a limit and nobody has its lease. -/
def IsFree (pool : Pool Job) (limit index : Nat) : Prop :=
  index < min limit pool.capacity ∧ (pool.slot index).leased = false

/-- How the helper of a slot comes to be there when the slot is leased, if it does. -/
inductive Staffing where
  /-- The pool has its end of the channel. -/
  | ready
  | starts
  /-- The system refuses to start a thread. -/
  | refused
  | panics (payload : Payload)

/-- What it takes to have a helper behind a slot. -/
def staffing (pool : Pool Job) (index : Nat) : Staffing :=
  if (pool.slot index).sender then .ready
  else match namePanic? (pool.helperName index) with
    | some payload => .panics payload
    | none => if pool.canSpawn index then .starts else .refused

/-! ## The least free slot -/

theorem isFree_iff_getElem : pool.IsFree limit index ↔
    ∃ inside : index < (pool.slots.take limit).length, (pool.slots.take limit)[index].leased = false := by
  simp only [IsFree, capacity, List.length_take, List.getElem_take]
  constructor
  · rintro ⟨inside, free⟩
    refine ⟨inside, ?_⟩
    rwa [slot, List.getElem?_eq_getElem (by omega), Option.getD_some] at free
  · rintro ⟨inside, free⟩
    refine ⟨inside, ?_⟩
    rwa [slot, List.getElem?_eq_getElem (by omega), Option.getD_some]

theorem leastFree?_eq_none_iff : pool.leastFree? limit = none ↔ ∀ index, ¬ pool.IsFree limit index := by
  simp only [leastFree?, List.findIdx?_eq_none_iff, isFree_iff_getElem, not_exists, Bool.not_eq_false,
    Bool.not_eq_false']
  exact List.forall_mem_iff_forall_getElem

theorem leastFree?_eq_some_iff :
    pool.leastFree? limit = some index ↔ IsLeast {index | pool.IsFree limit index} index := by
  rw [leastFree?, List.findIdx?_eq_some_iff_getElem]
  constructor
  · rintro ⟨inside, free, least⟩
    refine ⟨isFree_iff_getElem.mpr ⟨inside, by simpa using free⟩, fun other otherFree => ?_⟩
    obtain ⟨inside', free'⟩ := isFree_iff_getElem.mp otherFree
    by_contra below
    have leased := least other (Nat.lt_of_not_le below)
    rw [free'] at leased
    exact leased rfl
  · rintro ⟨free, least⟩
    obtain ⟨inside, free⟩ := isFree_iff_getElem.mp free
    refine ⟨inside, by simpa using free, fun other below => ?_⟩
    intro leased
    have otherFree : pool.IsFree limit other :=
      isFree_iff_getElem.mpr ⟨Nat.lt_trans below inside, by simpa using leased⟩
    exact Nat.not_lt_of_le (least otherFree) below

/-! ## Attempts -/

/-- An attempt looks for the least free slot, then for its helper; whatever it had begun is undone if that
fails. -/
theorem tryAcquire_eq (pool : Pool Job) (limit : Nat) (thread : ThreadId) : pool.tryAcquire limit thread =
    match pool.leastFree? limit with
    | none => (.ok none, pool)
    | some index => match pool.staffing index with
      | .ready => (.ok (some { slot := index, started := false }), pool.lease index)
      | .starts => (.ok (some { slot := index, started := true }), (pool.lease index).spawn index thread)
      | .refused => (.ok none, pool)
      | .panics payload => (.error payload, pool) := by
  rw [tryAcquire]
  cases found : pool.leastFree? limit with
  | none => rfl
  | some index =>
    have undone := pool.release_lease (pool.leastFree?_eq_some found).2
    cases warm : (pool.slot index).sender with
    | true => simp only [staffing, warm, ↓reduceIte]
    | false =>
      cases named : namePanic? (pool.helperName index) with
      | some payload => simp only [staffing, warm, named, undone, Bool.false_eq_true, ↓reduceIte]
      | none =>
        cases spawned : pool.canSpawn index with
        | true => simp only [staffing, warm, named, spawned, Bool.false_eq_true, ↓reduceIte]
        | false => simp only [staffing, warm, named, spawned, undone, Bool.false_eq_true, ↓reduceIte]

/-! ## What becomes of a slot -/

theorem modifySlot_eq (pool : Pool Job) (index : Nat) (change : Slot Job → Slot Job) :
    pool.modifySlot index change = { pool with slots := pool.slots.set index (change (pool.slot index)) } :=
  congrArg (fun slots => { pool with slots }) (List.modify_eq_set change index pool.slots)

theorem lease_eq (pool : Pool Job) (index : Nat) : pool.lease index = { pool with
    slots := pool.slots.set index { pool.slot index with leased := true }
    busy := pool.busy + 1 } := by
  rw [lease, modifySlot_eq]

theorem release_eq (pool : Pool Job) (index : Nat) : pool.release index = { pool with
    slots := pool.slots.set index { pool.slot index with leased := false }
    busy := pool.busy - 1 } := by
  rw [release, modifySlot_eq]

theorem spawn_lease_eq (inside : index < pool.slots.length) (thread : ThreadId) :
    (pool.lease index).spawn index thread = { pool with
      slots := pool.slots.set index { pool.slot index with leased := true, sender := true, helper := .idle thread }
      busy := pool.busy + 1
      spawned := pool.spawned + 1
      workers := pool.workers ++ [thread] } := by
  rw [spawn, modifySlot_eq, slot_lease, if_pos ⟨rfl, inside⟩, lease_eq]
  simp only [List.set_set]

/-! ## Flags while a lease is out -/

/-- What is acquired was free, and the pool has leased it, and started its helper if need be. -/
private theorem pool_of_acquired {thread : ThreadId} {acquired : Acquired}
    (had : (pool.tryAcquire limit thread).1 = .ok (some acquired)) :
    acquired.slot < pool.slots.length ∧ (pool.slot acquired.slot).leased = false ∧
      ((pool.tryAcquire limit thread).2 = pool.lease acquired.slot ∨
        (pool.tryAcquire limit thread).2 = (pool.lease acquired.slot).spawn acquired.slot thread) := by
  rcases pool.tryAcquire_shapes limit thread with ⟨-, missed⟩ | ⟨index, found, granted⟩
  · exact absurd had (missed acquired)
  · obtain ⟨inside, free⟩ := pool.leastFree?_eq_some found
    rcases granted with ⟨-, granted⟩ | ⟨-, -, granted⟩
    all_goals
      rw [granted, Except.ok.injEq, Option.some.injEq] at had
      subst had
      refine ⟨inside, free, ?_⟩
      rw [granted]
    · exact .inl rfl
    · exact .inr rfl

/-- To give back what was just acquired undoes what was done to flags and count. -/
theorem flags_of_undone {thread : ThreadId} {acquired : Acquired}
    (had : (pool.tryAcquire limit thread).1 = .ok (some acquired)) :
    (∀ other, (((pool.tryAcquire limit thread).2.release acquired.slot).slot other).leased =
      (pool.slot other).leased) ∧
      ((pool.tryAcquire limit thread).2.release acquired.slot).busy = pool.busy := by
  obtain ⟨inside, free, warm | cold⟩ := pool_of_acquired had
  · rw [warm, pool.release_lease free]
    exact ⟨fun _ => rfl, rfl⟩
  · rw [cold]
    refine ⟨fun other => ?_, Nat.add_sub_cancel ..⟩
    rw [slot_release, slot_spawn_lease]
    have length : ((pool.lease acquired.slot).spawn acquired.slot thread).slots.length = pool.slots.length := by
      rw [spawn_lease_eq inside, List.length_set]
    rw [length]
    split_ifs with here
    · rw [here.1, free]
    · rfl

end Pool

namespace System

variable {system : System} {lease : Lease}

/-! ## In a process -/

/-- To acquire a lease changes the pool, and adds the thread of a helper that has been started. -/
theorem acquire_eq (system : System) (pool : PoolId) (limit : Nat) : system.acquire pool limit =
    match (system.pool pool).leastFree? limit with
    | none => (.ok none, system)
    | some slot => match (system.pool pool).staffing slot with
      | .ready => (.ok (some { pool, slot }), system.modifyPool pool (·.lease slot))
      | .starts => (.ok (some { pool, slot }),
          ((system.modifyPool pool fun pool => (pool.lease slot).spawn slot system.threads.length).addThread
            { name := (system.pool pool).helperName slot }).2)
      | .refused => (.ok none, system)
      | .panics payload => (.error payload, system) := by
  have changed (change : Pool WorkId → Pool WorkId) :
      system.modifyPool pool (fun _ => change (system.pool pool)) = system.modifyPool pool change :=
    modifyPool_congr rfl
  rw [acquire, Pool.tryAcquire_eq]
  cases (system.pool pool).leastFree? limit with
  | none => simp only [modifyPool_self]
  | some slot =>
    dsimp only
    cases (system.pool pool).staffing slot with
    | ready => simp only [changed (·.lease slot), Bool.false_eq_true, ↓reduceIte]
    | starts =>
      simp only [changed fun pool => (pool.lease slot).spawn slot system.threads.length, ↓reduceIte]
      rfl
    | refused => simp only [modifyPool_self]
    | panics payload => simp only [modifyPool_self]

/-- What an attempt to lease one of the first slots of a pool comes to, and what it leaves behind. -/
structure Attempt (system : System) (pool : PoolId) (limit : Nat) : Prop where
  /-- There is a lease to be had of the least free slot, if that has a helper or one is started. -/
  granted : ∀ lease, (system.acquire pool limit).1 = .ok (some lease) ↔
    lease.pool = pool ∧ IsLeast {slot | (system.pool pool).IsFree limit slot} lease.slot ∧
      ((system.pool pool).staffing lease.slot = .ready ∨ (system.pool pool).staffing lease.slot = .starts)
  missed : (system.acquire pool limit).1 = .ok none ↔
    (∀ slot, ¬ (system.pool pool).IsFree limit slot) ∨
      ∃ slot, IsLeast {slot | (system.pool pool).IsFree limit slot} slot ∧
        (system.pool pool).staffing slot = .refused
  /-- The attempt to start a helper under a name that no thread can have does not return. -/
  panicked : ∀ payload, (system.acquire pool limit).1 = .error payload ↔
    ∃ slot, IsLeast {slot | (system.pool pool).IsFree limit slot} slot ∧
      (system.pool pool).staffing slot = .panics payload
  unchanged : (∀ lease, (system.acquire pool limit).1 ≠ .ok (some lease)) → (system.acquire pool limit).2 = system
  /-- A slot with a helper is marked and counted. -/
  marked : ∀ lease, (system.acquire pool limit).1 = .ok (some lease) →
    (system.pool pool).staffing lease.slot = .ready →
    (system.acquire pool limit).2 = { system with
      pools := system.pools.set pool { system.pool pool with
        slots := (system.pool pool).slots.set lease.slot { system.station lease with leased := true }
        busy := (system.pool pool).busy + 1 } }
  /-- A helper that is started has the pool's sender and a thread that the pool is to wait for. -/
  started : ∀ lease, (system.acquire pool limit).1 = .ok (some lease) →
    (system.pool pool).staffing lease.slot = .starts → (system.acquire pool limit).2 = { system with
      pools := system.pools.set pool { system.pool pool with
        slots := (system.pool pool).slots.set lease.slot { system.station lease with
          leased := true, sender := true, helper := .idle system.threads.length }
        busy := (system.pool pool).busy + 1
        spawned := (system.pool pool).spawned + 1
        workers := (system.pool pool).workers ++ [system.threads.length] }
      threads := system.threads ++ [{ name := (system.pool pool).helperName lease.slot }] }

theorem modifyPool_eq (system : System) (id : PoolId) (change : Pool WorkId → Pool WorkId) :
    system.modifyPool id change = { system with pools := system.pools.set id (change (system.pool id)) } :=
  congrArg (fun pools => { system with pools }) (List.modify_eq_set change id system.pools)

section Attempts

variable {pool : PoolId} {limit slot : Nat}

/-- The least free slot is the one that an attempt finds. -/
theorem isLeast_iff (found : (system.pool pool).leastFree? limit = some slot) (other : Nat) :
    IsLeast {slot | (system.pool pool).IsFree limit slot} other ↔ other = slot := by
  rw [← Pool.leastFree?_eq_some_iff, found, Option.some.injEq, eq_comm]

theorem not_isLeast (missing : (system.pool pool).leastFree? limit = none) (slot : Nat) :
    ¬ IsLeast {slot | (system.pool pool).IsFree limit slot} slot :=
  fun least => Pool.leastFree?_eq_none_iff.mp missing slot least.1

theorem ok_eq_ok_iff (lease : Lease) :
    (.ok (some { pool, slot }) : Except Payload (Option Lease)) = .ok (some lease) ↔
    lease.pool = pool ∧ lease.slot = slot := by
  obtain ⟨place, index⟩ := lease
  simp only [Except.ok.injEq, Option.some.injEq, Lease.mk.injEq, eq_comm]

theorem attempt_granted (lease : Lease) : (system.acquire pool limit).1 = .ok (some lease) ↔
    lease.pool = pool ∧ IsLeast {slot | (system.pool pool).IsFree limit slot} lease.slot ∧
      ((system.pool pool).staffing lease.slot = .ready ∨ (system.pool pool).staffing lease.slot = .starts) := by
  rw [acquire_eq]
  cases found : (system.pool pool).leastFree? limit with
  | none =>
    refine iff_of_false (fun had => ?_) fun both => not_isLeast found _ both.2.1
    exact Option.some_ne_none lease (Except.ok.inj had).symm
  | some slot =>
    have helped (staffed : (system.pool pool).staffing slot = .ready ∨ (system.pool pool).staffing slot = .starts) :
        lease.slot = slot →
          (system.pool pool).staffing lease.slot = .ready ∨ (system.pool pool).staffing lease.slot = .starts :=
      fun same => same ▸ staffed
    rw [isLeast_iff found]
    dsimp only
    cases staffing : (system.pool pool).staffing slot with
    | ready => exact (ok_eq_ok_iff lease).trans (and_congr_right' (and_iff_left_of_imp (helped (.inl staffing))).symm)
    | starts => exact (ok_eq_ok_iff lease).trans (and_congr_right' (and_iff_left_of_imp (helped (.inr staffing))).symm)
    | refused | panics =>
      refine iff_of_false (fun had => by cases had) ?_
      rintro ⟨-, same, staffed⟩
      simp only [same, staffing, reduceCtorEq, or_false] at staffed

theorem attempt_missed : (system.acquire pool limit).1 = .ok none ↔
    (∀ slot, ¬ (system.pool pool).IsFree limit slot) ∨
      ∃ slot, IsLeast {slot | (system.pool pool).IsFree limit slot} slot ∧
        (system.pool pool).staffing slot = .refused := by
  rw [acquire_eq, ← Pool.leastFree?_eq_none_iff]
  cases found : (system.pool pool).leastFree? limit with
  | none => exact iff_of_true rfl (.inl rfl)
  | some slot =>
    simp only [isLeast_iff found, exists_eq_left, reduceCtorEq, false_or]
    cases (system.pool pool).staffing slot <;> simp

theorem attempt_panicked (payload : Payload) : (system.acquire pool limit).1 = .error payload ↔
    ∃ slot, IsLeast {slot | (system.pool pool).IsFree limit slot} slot ∧
      (system.pool pool).staffing slot = .panics payload := by
  rw [acquire_eq]
  cases found : (system.pool pool).leastFree? limit with
  | none =>
    simp only [reduceCtorEq, false_iff]
    rintro ⟨slot, least, -⟩
    exact not_isLeast found slot least
  | some slot =>
    simp only [isLeast_iff found, exists_eq_left]
    cases (system.pool pool).staffing slot <;> simp

theorem attempt_unchanged (unlucky : ∀ lease, (system.acquire pool limit).1 ≠ .ok (some lease)) :
    (system.acquire pool limit).2 = system := by
  rw [acquire_eq] at unlucky ⊢
  split
  · rfl
  · rename_i slot found
    simp only [found] at unlucky
    cases staffing : (system.pool pool).staffing slot with
    | ready | starts =>
      simp only [staffing] at unlucky
      exact absurd rfl (unlucky { pool, slot })
    | refused | panics => rfl

/-- The slot that was had is the one that was found. -/
theorem found_of_acquired (had : (system.acquire pool limit).1 = .ok (some lease)) :
    (system.pool pool).leastFree? limit = some lease.slot ∧ lease.pool = pool :=
  ⟨Pool.leastFree?_eq_some_iff.mpr (attempt_granted lease |>.mp had).2.1, (attempt_granted lease |>.mp had).1⟩

theorem attempt (system : System) (pool : PoolId) (limit : Nat) : system.Attempt pool limit where
  granted := attempt_granted
  missed := attempt_missed
  panicked := attempt_panicked
  unchanged := attempt_unchanged
  marked lease had ready := by
    obtain ⟨found, rfl⟩ := found_of_acquired had
    simp only [acquire_eq, found, ready, modifyPool_eq, Pool.lease_eq]
    rfl
  started lease had starts := by
    obtain ⟨found, rfl⟩ := found_of_acquired had
    have inside := ((system.pool lease.pool).leastFree?_eq_some found).1
    simp only [acquire_eq, found, starts, modifyPool_eq, Pool.spawn_lease_eq inside, addThread]
    rfl

end Attempts

/-- A step that frees the slot of a live lease and counts it no longer, and leaves all else about the pools. -/
structure Frees (system after : System) (lease : Lease) : Prop where
  leased : (system.station lease).leased = true
  counted : 0 < (system.pool lease.pool).busy
  pools : after.pools = system.pools.set lease.pool { system.pool lease.pool with
    slots := (system.pool lease.pool).slots.set lease.slot { system.station lease with leased := false }
    busy := (system.pool lease.pool).busy - 1 }

/-! ## Giving a lease back -/

theorem frees_release (counted : ∀ pool, (system.pool pool).Counted)
    (leased : (system.station lease).leased = true) : system.Frees (system.release lease) lease where
  leased := leased
  counted := by
    rw [counted lease.pool, ← Pool.length_leasedSlots]
    exact List.length_pos_of_mem ((Pool.mem_leasedSlots _).mpr leased)
  pools := by rw [release, modifyPool_eq, Pool.release_eq]; rfl

theorem frees_dropLease {events : List Event} (sound : system.picture.Sound events)
    (counted : ∀ pool, (system.pool pool).Counted) {thread : ThreadId} {name : String}
    (enabled : system.Enabled (.dropLease thread name)) (held : system.lease? thread name = some lease) :
    system.Frees (system.perform (.dropLease thread name)) lease := by
  obtain ⟨activation, others, found, top, -, look, held'⟩ := lease_cases enabled.1 enabled.2
  obtain rfl := Option.some.inj (held.symm.trans held')
  have leased := leased_of_crew sound top.mem (holds_of_lookup look)
  have freed := frees_release counted leased
  refine ⟨leased, freed.counted, ?_⟩
  rw [perform, withLease, held]
  exact freed.pools

/-- A lease that is had in a process is one that its pool has granted. -/
theorem granted_of_acquired {pool : PoolId} {limit : Nat} (had : (system.acquire pool limit).1 = .ok (some lease)) :
    ∃ acquired, ((system.pool pool).tryAcquire limit system.threads.length).1 = .ok (some acquired) ∧
      lease = { pool, slot := acquired.slot } := by
  rw [acquire_fst] at had
  cases tried : ((system.pool pool).tryAcquire limit system.threads.length).1 with
  | error payload => simp [tried, Except.map] at had
  | ok outcome =>
    cases outcome with
    | none => simp [tried, Except.map] at had
    | some acquired =>
      simp only [tried, Except.map, Option.map_some, Except.ok.injEq, Option.some.injEq] at had
      exact ⟨acquired, rfl, had.symm⟩

/-- To drop a lease at once undoes what acquiring it did to flags and counts. -/
theorem undone {pool : PoolId} {limit : Nat} (had : (system.acquire pool limit).1 = .ok (some lease)) :
    (∀ other, (((system.acquire pool limit).2.release lease).station other).leased =
      (system.station other).leased) ∧
      ∀ other, (((system.acquire pool limit).2.release lease).pool other).busy = (system.pool other).busy := by
  obtain ⟨acquired, had', rfl⟩ := granted_of_acquired had
  obtain ⟨flags, busy⟩ := Pool.flags_of_undone had'
  have tried (other : PoolId) : (system.acquire pool limit).2.pool other =
      if other = pool ∧ pool < system.pools.length then ((system.pool pool).tryAcquire limit system.threads.length).2
      else system.pool other :=
    (congrArg (fun pools => pools[other]?.getD default) (pools_acquire pool limit)).trans (pool_modifyPool ..)
  have length : (system.acquire pool limit).2.pools.length = system.pools.length := by
    rw [pools_acquire, modifyPool, List.length_modify]
  have after (other : PoolId) : ((system.acquire pool limit).2.release { pool, slot := acquired.slot }).pool other =
      if other = pool ∧ pool < system.pools.length then
        ((system.pool pool).tryAcquire limit system.threads.length).2.release acquired.slot
      else system.pool other := by
    rw [release, pool_modifyPool, length, tried]
    split_ifs <;> rfl
  constructor
  · intro other
    rw [station, after, station]
    split_ifs with here
    · rw [flags, here.1]
    · rfl
  · intro other
    rw [after]
    split_ifs with here
    · rw [busy, here.1]
    · rfl

end System

/-! ## Every run -/

end ScopedWork
