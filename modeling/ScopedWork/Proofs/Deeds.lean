import ScopedWork.Proofs.Actions
import ScopedWork.Proofs.Placing

/-! # What is done to one pool

An action of a process deals with at most one pool, and does to it what the operations of pools do.
So what every deed keeps holds of each pool in every run, and no rule for pools has to look at what
threads do.
-/

namespace ScopedWork

namespace Pool

variable {Job : Type} {pool : Pool Job}

inductive Deed (Job : Type) where
  /-- An attempt to lease a slot below a limit; a helper that has to be started is the thread given. -/
  | acquire (limit : Nat) (thread : ThreadId)
  | release (index : Nat)
  | dispatch (index : Nat) (job : Job)
  /-- The helper of a slot has ended its job and turns to its channel. -/
  | next (index : Nat)
  /-- The helper of a slot dies. -/
  | die (index : Nat)
  | bar (index : Nat) (barred : Bool)
  | shutdown

def undergo (pool : Pool Job) : Deed Job → Pool Job
  | .acquire limit thread => (pool.tryAcquire limit thread).2
  | .release index => pool.release index
  | .dispatch index job => (pool.dispatch index job).2
  | .next index => (pool.nextJob index).2
  | .die index => (pool.helperDies index).2
  | .bar index barred => pool.modifySlot index ({ · with barred })
  | .shutdown => pool.shutdown

/-! ## Attempts to lease -/

/-- An attempt to lease gets no slot and changes nothing, or gets the least free one, with the helper
that is there or with one that it starts. -/
theorem tryAcquire_shapes (pool : Pool Job) (limit : Nat) (thread : ThreadId) :
    (pool.tryAcquire limit thread).2 = pool ∧
        (∀ acquired, (pool.tryAcquire limit thread).1 ≠ .ok (some acquired)) ∨
      ∃ index, pool.leastFree? limit = some index ∧
        ((pool.slot index).sender = true ∧
          pool.tryAcquire limit thread = (.ok (some { slot := index, started := false }), pool.lease index) ∨
        (pool.slot index).sender = false ∧ namePanic? (pool.helperName index) = none ∧
          pool.tryAcquire limit thread =
            (.ok (some { slot := index, started := true }), (pool.lease index).spawn index thread)) := by
  rcases pool.tryAcquire_cases limit thread with missed | ⟨payload, index, -, missed⟩ | granted
  · exact .inl (by simp [missed])
  · exact .inl (by simp [missed])
  · exact .inr granted

theorem slot_lease (pool : Pool Job) (index other : Nat) : (pool.lease index).slot other =
    if other = index ∧ index < pool.slots.length then { pool.slot other with leased := true } else pool.slot other :=
  pool.slot_modifySlot index other _

theorem slot_release (pool : Pool Job) (index other : Nat) : (pool.release index).slot other =
    if other = index ∧ index < pool.slots.length then { pool.slot other with leased := false } else pool.slot other :=
  pool.slot_modifySlot index other _

/-- A slot that is leased and its helper started, at once. -/
theorem slot_spawn_lease (pool : Pool Job) (index other : Nat) (thread : ThreadId) :
    ((pool.lease index).spawn index thread).slot other =
      if other = index ∧ index < pool.slots.length then
        { pool.slot other with leased := true, sender := true, helper := .idle thread }
      else pool.slot other := by
  have modified : ((pool.lease index).spawn index thread).slot other =
      ((pool.lease index).modifySlot index ({ · with sender := true, helper := .idle thread })).slot other := rfl
  have length : (pool.lease index).slots.length = pool.slots.length := List.length_modify _ _ _
  rw [modified, slot_modifySlot, slot_lease, length]
  split_ifs <;> rfl

/-- The slot that a deed changes, if it changes only one. -/
def place? (pool : Pool Job) : Deed Job → Option Nat
  | .acquire limit _ => pool.leastFree? limit
  | .release index | .dispatch index _ | .next index | .die index | .bar index _ => some index
  | .shutdown => none

/-- A deed to one slot leaves the others as they are. -/
theorem slot_undergo_of_ne {deed : Deed Job} {index : Nat} (goesOn : deed ≠ .shutdown)
    (elsewhere : pool.place? deed ≠ some index) : (pool.undergo deed).slot index = pool.slot index := by
  have modified {place : Nat} (ne : some place ≠ some index) (change : Slot Job → Slot Job) :
      (pool.modifySlot place change).slot index = pool.slot index := by
    rw [slot_modifySlot, if_neg fun both => ne (congrArg some both.1.symm)]
  cases deed with
  | acquire limit thread =>
    rcases pool.tryAcquire_shapes limit thread with ⟨same, -⟩ | ⟨place, found, granted⟩
    · rw [undergo, same]
    · have ne : some place ≠ some index := found ▸ elsewhere
      rcases granted with ⟨-, had⟩ | ⟨-, -, had⟩
      · rw [undergo, had]
        exact modified ne _
      · rw [undergo, had, slot_spawn_lease, if_neg fun both => ne (congrArg some both.1.symm)]
  | release | die | bar => exact modified elsewhere _
  | dispatch place job =>
    simp only [undergo, dispatch]
    split
    · split
      · exact modified elsewhere _
      · exact modified elsewhere _
      · exact modified elsewhere _
      · rfl
    · rfl
  | next place =>
    simp only [undergo, nextJob]
    split
    · exact modified elsewhere _
    · exact modified elsewhere _
    · rfl
    · rfl
  | shutdown => exact absurd rfl goesOn

/-- Besides the slots a deed changes the counts and the threads that are known, and only the last one
makes a pool unusable. -/
theorem undergo_rest (pool : Pool Job) (deed : Deed Job) : ∃ slots busy spawned workers dropped,
    pool.undergo deed = { pool with slots, busy, spawned, workers, dropped } ∧
      (deed ≠ .shutdown → dropped = pool.dropped) := by
  have unchanged : ∃ slots busy spawned workers dropped,
      pool = { pool with slots, busy, spawned, workers, dropped } ∧ (deed ≠ .shutdown → dropped = pool.dropped) :=
    ⟨_, _, _, _, _, rfl, fun _ => rfl⟩
  cases deed with
  | acquire limit thread =>
    rcases pool.tryAcquire_shapes limit thread with ⟨same, -⟩ | ⟨place, -, ⟨-, had⟩ | ⟨-, -, had⟩⟩
    · rwa [undergo, same]
    · rw [undergo, had]
      exact ⟨_, _, _, _, _, rfl, fun _ => rfl⟩
    · rw [undergo, had]
      exact ⟨_, _, _, _, _, rfl, fun _ => rfl⟩
  | dispatch place job =>
    simp only [undergo, dispatch]
    split
    · split
      · exact ⟨_, _, _, _, _, rfl, fun _ => rfl⟩
      · exact ⟨_, _, _, _, _, rfl, fun _ => rfl⟩
      · exact ⟨_, _, _, _, _, rfl, fun _ => rfl⟩
      · exact unchanged
    · exact unchanged
  | next place =>
    simp only [undergo, nextJob]
    split
    · exact ⟨_, _, _, _, _, rfl, fun _ => rfl⟩
    · exact ⟨_, _, _, _, _, rfl, fun _ => rfl⟩
    · exact unchanged
    · exact unchanged
  | release | die | bar => exact ⟨_, _, _, _, _, rfl, fun _ => rfl⟩
  | shutdown => exact ⟨_, _, _, _, true, rfl, fun goesOn => absurd rfl goesOn⟩

theorem dropped_undergo {deed : Deed Job} (goesOn : deed ≠ .shutdown) :
    (pool.undergo deed).dropped = pool.dropped := by
  obtain ⟨_, _, _, _, _, after, kept⟩ := pool.undergo_rest deed
  rw [after]
  exact kept goesOn

theorem helperName_undergo (pool : Pool Job) (deed : Deed Job) (index : Nat) :
    (pool.undergo deed).helperName index = pool.helperName index := by
  obtain ⟨_, _, _, _, _, after, -⟩ := pool.undergo_rest deed
  rw [after]
  rfl

theorem slot_shutdown (pool : Pool Job) (index : Nat) :
    (pool.undergo .shutdown).slot index = (pool.slot index).cut := by
  rw [undergo, slot, slot, shutdown, List.getElem?_map]
  cases pool.slots[index]? <;> rfl

end Pool

namespace System

variable {system middle after : System} {events : List Event}

/-! ## What an action does to the pools -/

/-- The pool that an action deals with, if any, and what it does to it. -/
def dealing (system : System) : Action → Option (PoolId × List (Pool.Deed WorkId))
  | .submit _ scope =>
    let record := system.scope scope
    some (record.pool, .acquire record.concurrency system.threads.length ::
      match ((system.pool record.pool).tryAcquire record.concurrency system.threads.length).1 with
      | .ok (some acquired) => [.dispatch acquired.slot system.works.length]
      | .ok none | .error _ => [])
  | .acquire _ pool limit _ => some (pool, [.acquire limit system.threads.length])
  | .dropLease thread name =>
    (system.lease? thread name).map fun lease => (lease.pool, [.release lease.slot])
  | .dispatch thread name =>
    (system.lease? thread name).map fun lease => (lease.pool, [.dispatch lease.slot system.works.length])
  | .free thread | .endJob thread | .vacate thread =>
    ((system.currentWork? thread).bind fun work => (system.work work).held).map fun lease =>
      (lease.pool, [.release lease.slot])
  | .next station => some (station.pool, [.next station.slot])
  | .die station =>
    some (station.pool, .die station.slot ::
      match (system.station station).waiting with
      | some _ => [.release station.slot]
      | none => [])
  | .bar station barred => some (station.pool, [.bar station.slot barred])
  | .dropPool pool => some (pool, [.shutdown])
  | .enter .. | .enterIn .. | .reduce .. | .beginExit .. | .beginDrop .. | .leave _ | .attach .. | .detach _
  | .passLease .. | .endLogic .. | .complete _ | .makePool .. | .makeRoot .. | .makeFactory _ | .reroute ..
  | .register _ | .configure _ | .start .. | .finish _ => none

/-- What deeds to some pool are to the pool of a number. -/
def dealtTo (id : PoolId) : Option (PoolId × List (Pool.Deed WorkId)) → List (Pool.Deed WorkId)
  | some (pool, deeds) => if pool = id then deeds else []
  | none => []

/-- What an action does to the pool of a number. -/
def deeds (system : System) (id : PoolId) (action : Action) : List (Pool.Deed WorkId) :=
  dealtTo id (system.dealing action)

/-- A step after which the pools are those there were, one of which has undergone deeds, and new ones. -/
structure Deals (system after : System) (dealt : Option (PoolId × List (Pool.Deed WorkId))) : Prop where
  kept : ∀ id < system.pools.length, id < after.pools.length ∧
    after.pool id = (dealtTo id dealt).foldl Pool.undergo (system.pool id)
  made : ∀ id, ¬ id < system.pools.length → id < after.pools.length →
    ∃ capacity config stackBound, after.pool id = Pool.ofConfig capacity config stackBound

namespace Deals

theorem of_pools (same : after.pools = system.pools) : system.Deals after none where
  kept id bound := by
    rw [pool, pool, same]
    exact ⟨bound, rfl⟩
  made id beyond bound := by
    rw [same] at bound
    exact absurd bound beyond

/-- Deeds to a pool, and then more to the same pool. -/
theorem trans {place : PoolId} {first second : List (Pool.Deed WorkId)}
    (dealt : system.Deals middle (some (place, first)))
    (same : middle.pools.length = system.pools.length) (more : middle.Deals after (some (place, second))) :
    system.Deals after (some (place, first ++ second)) where
  kept id bound := by
    obtain ⟨bound, read⟩ := dealt.kept id bound
    obtain ⟨bound, read'⟩ := more.kept id bound
    refine ⟨bound, read'.trans ?_⟩
    rw [read]
    simp only [dealtTo]
    split_ifs
    · rw [List.foldl_append]
    · rfl
  made id beyond bound := more.made id (by rwa [same]) bound

/-- Before a deed nothing may be done to pools, and after it pools may be made. -/
theorem around {before : System} {dealt : Option (PoolId × List (Pool.Deed WorkId))}
    (dealt' : before.Deals middle dealt)
    (same : before.pools = system.pools) (more : middle.Deals after none) : system.Deals after dealt where
  kept id bound := by
    obtain ⟨bound, read⟩ := dealt'.kept id (by rwa [same])
    obtain ⟨bound, read'⟩ := more.kept id bound
    refine ⟨bound, read'.trans ?_⟩
    rw [dealtTo, List.foldl_nil, read, pool, pool, same]
  made id beyond bound := by
    by_cases there : id < middle.pools.length
    · rw [(more.kept id there).2]
      exact dealt'.made id (by rwa [same]) there
    · exact more.made id there bound

theorem congr {dealt : Option (PoolId × List (Pool.Deed WorkId))} (deals : system.Deals middle dealt)
    (same : after.pools = middle.pools) : system.Deals after dealt :=
  deals.around rfl (.of_pools same)

theorem modifyPool (place : PoolId) {change : Pool WorkId → Pool WorkId} {deeds : List (Pool.Deed WorkId)}
    (does : change (system.pool place) = deeds.foldl Pool.undergo (system.pool place)) :
    system.Deals (system.modifyPool place change) (some (place, deeds)) where
  kept id bound := by
    refine ⟨by rwa [System.modifyPool, List.length_modify], ?_⟩
    rw [pool_modifyPool, dealtTo]
    by_cases here : place = id
    · subst here
      rw [if_pos ⟨rfl, bound⟩, if_pos rfl, does]
    · rw [if_neg fun both => here both.1.symm, if_neg here]
      rfl
  made id beyond bound := by
    rw [System.modifyPool, List.length_modify] at bound
    exact absurd bound beyond

theorem addPool (capacity : Nat) (config : Setting.Config) (stackBound : Option Nat) :
    system.Deals (system.addPool (Pool.ofConfig capacity config stackBound)).2 none where
  kept id bound := by
    refine ⟨by simp only [System.addPool, List.length_append, List.length_singleton]; omega, ?_⟩
    rw [pool_addPool, if_neg (Nat.ne_of_lt bound)]
    rfl
  made id beyond bound := by
    simp only [System.addPool, List.length_append, List.length_singleton] at bound
    have last : id = system.pools.length := by omega
    rw [pool_addPool, if_pos last]
    exact ⟨capacity, config, stackBound, rfl⟩

end Deals

/-! ## Contexts -/

theorem deals_getGlobalPool : system.Deals system.getGlobalPool.2 none := by
  rw [getGlobalPool]
  split
  · exact .of_pools rfl
  · exact (@Deals.addPool system.readSetting.2 _ _ _).around rfl (.of_pools rfl)

theorem deals_getStandardRoot : system.Deals system.getStandardRoot.2 none := by
  rw [getStandardRoot]
  split
  · exact .of_pools rfl
  · exact (@deals_getGlobalPool { system with setting := system.setting.concurrency.2 }).around rfl
      (.of_pools rfl)

theorem deals_enclosing (thread : ThreadId) : system.Deals (system.enclosing thread).2 none := by
  rw [enclosing]
  split
  · exact .of_pools rfl
  · rw [supplyRoot]
    split
    · rename_i id factory _
      cases source : factory.source with
      | scope root => exact .of_pools rfl
      | fresh pool concurrency => exact .of_pools rfl
      | standard => exact (@deals_getStandardRoot (system.countLookup id)).around rfl (.of_pools rfl)
    · exact deals_getStandardRoot

/-! ## Leases and works -/

theorem holds_of_held {work : Work} {lease : Lease} (held : work.held = some lease) : work.holds lease = true := by
  rw [Work.held] at held
  split_ifs at held with leased
  exact holds_eq_true.mpr ⟨leased, held⟩

theorem pools_beginWork (thread : ThreadId) (work : WorkId) (snapshot : Option Stack) :
    (system.beginWork thread work snapshot).pools = system.pools := by
  cases snapshot <;> rfl

theorem pools_endProgram (thread : ThreadId) : (system.endProgram thread).pools = system.pools := by
  rw [endProgram]
  split <;> rfl

theorem pools_foldl_retire (helpers : List ThreadId) (system : System) :
    (helpers.foldl retire system).pools = system.pools := by
  induction helpers generalizing system with
  | nil => rfl
  | cons helper rest ih => exact ih (system.retire helper)

/-- What the attempt to acquire a lease comes to, told by the pool. -/
theorem acquire_fst (system : System) (pool : PoolId) (limit : Nat) : (system.acquire pool limit).1 =
    ((system.pool pool).tryAcquire limit system.threads.length).1.map
      (Option.map fun acquired => ({ pool, slot := acquired.slot } : Lease)) := by
  rw [acquire]
  dsimp only
  split
  · rename_i panicked
    rw [panicked]
    rfl
  · rename_i missed
    rw [missed]
    rfl
  · rename_i had
    rw [had]
    split <;> rfl

theorem pools_acquire (pool : PoolId) (limit : Nat) : (system.acquire pool limit).2.pools =
    (system.modifyPool pool fun _ => ((system.pool pool).tryAcquire limit system.threads.length).2).pools := by
  rw [acquire]
  dsimp only
  split
  · rfl
  · rfl
  · split <;> rfl

theorem works_acquire (pool : PoolId) (limit : Nat) : (system.acquire pool limit).2.works = system.works := by
  rw [acquire]
  dsimp only
  split
  · rfl
  · rfl
  · split <;> rfl

theorem deals_acquire (pool : PoolId) (limit : Nat) :
    system.Deals (system.acquire pool limit).2 (some (pool, [.acquire limit system.threads.length])) :=
  have tried : system.Deals (system.modifyPool pool fun _ =>
      ((system.pool pool).tryAcquire limit system.threads.length).2)
        (some (pool, [.acquire limit system.threads.length])) :=
    .modifyPool pool rfl
  tried.congr (pools_acquire pool limit)

theorem deals_release (lease : Lease) :
    system.Deals (system.release lease) (some (lease.pool, [.release lease.slot])) :=
  .modifyPool lease.pool rfl

theorem deals_vacate (work : WorkId) : system.Deals (system.vacate work)
    ((system.work work).held.map fun lease => (lease.pool, [.release lease.slot])) := by
  have pools := pools_vacate system work
  cases held : (system.work work).held with
  | none =>
    simp only [held] at pools
    exact .of_pools pools
  | some lease =>
    simp only [held] at pools
    exact (deals_release lease).congr pools

theorem deals_handOver (thread : ThreadId) (lease : Lease) (work : WorkId) (snapshot : Option Stack) :
    system.Deals (system.handOver thread lease work snapshot).2 (some (lease.pool, [.dispatch lease.slot work])) := by
  have sent : system.Deals (system.modifyPool lease.pool fun _ =>
      ((system.pool lease.pool).dispatch lease.slot work).2) (some (lease.pool, [.dispatch lease.slot work])) :=
    .modifyPool lease.pool rfl
  apply sent.congr
  rw [handOver]
  dsimp only
  split <;> first | exact pools_beginWork _ _ _ | rfl

/-- To add a work and send it through a lease. -/
theorem deals_send (thread : ThreadId) (lease : Lease) (work : Work) (snapshot : Option Stack) :
    system.Deals ((system.addWork work).2.handOver thread lease system.works.length snapshot).2
      (some (lease.pool, [.dispatch lease.slot system.works.length])) :=
  (@deals_handOver (system.addWork work).2 thread lease _ snapshot).around rfl (.of_pools rfl)

theorem deals_dispatchJob (thread : ThreadId) (lease : Lease) : system.Deals (system.dispatchJob thread lease).2
    (some (lease.pool, [.dispatch lease.slot system.works.length])) :=
  deals_send thread lease (pooledWork .job thread (system.activation thread).within lease none) none

theorem deals_submit (thread : ThreadId) (scope : ScopeId) :
    system.Deals (system.submit thread scope).2 (system.dealing (.submit thread scope)) := by
  let counted := system.modifyScope scope Scope.countDispatched
  let record := system.scope scope
  have tried : system.Deals (counted.acquire record.pool record.concurrency).2 _ :=
    (@deals_acquire counted _ _).around rfl (.of_pools rfl)
  have length : (counted.acquire record.pool record.concurrency).2.pools.length = system.pools.length := by
    rw [pools_acquire]
    exact List.length_modify _ _ _
  have told : (counted.acquire record.pool record.concurrency).1 =
      ((system.pool record.pool).tryAcquire record.concurrency system.threads.length).1.map _ :=
    acquire_fst counted record.pool record.concurrency
  have works : (counted.acquire record.pool record.concurrency).2.works = system.works := works_acquire _ _
  rcases had : counted.acquire record.pool record.concurrency with ⟨result, granted⟩
  rw [had] at tried length told works
  simp only [dealing]
  rcases asked : ((system.pool record.pool).tryAcquire record.concurrency system.threads.length).1 with
    payload | _ | acquired
  all_goals
    rw [asked] at told
    subst told
  · simp only [submit, counted, record, had, Except.map]
    exact tried
  · simp only [submit, counted, record, had, Except.map, Option.map]
    exact tried.congr (pools_beginWork thread _ _)
  · simp only [submit, counted, record, had, Except.map, Option.map]
    let lease : Lease := { pool := record.pool, slot := acquired.slot }
    let snapshot := system.stack thread
    apply tried.trans length
    rw [← congrArg List.length works]
    exact (@deals_send (granted.modifyScope scope Scope.countPooled) thread lease
      (pooledWork (.logic scope) thread (system.activation thread).within lease (some snapshot)) (some snapshot)).around
        rfl (.of_pools rfl)

/-- A helper that dies, and the lease of the work that is lost with it. -/
theorem deals_helperDies (channels : system.picture.Channels) (helper : ThreadId) (station : Lease) :
    system.Deals (system.helperDies helper station).2 (system.dealing (.die station)) := by
  let dead := (system.modifyPool station.pool fun _ =>
    ((system.pool station.pool).helperDies station.slot).2).retire helper
  have dies : system.Deals dead (some (station.pool, [.die station.slot])) :=
    (@Deals.modifyPool system station.pool
      (fun _ => ((system.pool station.pool).helperDies station.slot).2) _ rfl).congr
      rfl
  cases waiting : (system.station station).waiting with
  | none =>
    have lost : ((system.pool station.pool).helperDies station.slot).1 = none := waiting
    simp only [dealing, waiting, helperDies, lost]
    exact dies
  | some work =>
    have lost : ((system.pool station.pool).helperDies station.slot).1 = some work := waiting
    have waits := channels.waits station work waiting
    have leased : (system.work work).leased = true := waits.leased
    have place : (system.work work).station = some station := waits.place
    have held : (dead.work work).held = some station := by
      change (system.work work).held = some station
      rw [Work.held, leased, place]
      rfl
    have freed := @deals_vacate dead work
    rw [held] at freed
    simp only [dealing, waiting, helperDies, lost]
    exact dies.trans (List.length_modify _ _ _) (freed.congr rfl)

theorem deals_helperNext (helper : ThreadId) (station : Lease) :
    system.Deals (system.helperNext helper station).2 (some (station.pool, [.next station.slot])) := by
  have turned : system.Deals (system.modifyPool station.pool fun _ =>
      ((system.pool station.pool).nextJob station.slot).2) (some (station.pool, [.next station.slot])) :=
    .modifyPool station.pool rfl
  apply turned.congr
  simp only [helperNext]
  split
  · exact pools_beginWork _ _ _
  · split <;> rfl

/-! ## Every action -/

/-- An action deals with the pools as it says, whatever else it does. -/
theorem deals_perform (sound : system.picture.Sound events) {action : Action} (enabled : system.Enabled action) :
    system.Deals (system.perform action) (system.dealing action) := by
  cases action with
  | enter thread tenure => exact (deals_enclosing thread).congr rfl
  | submit thread scope => exact deals_submit thread scope
  | leave thread =>
    obtain ⟨-, -, scope, -, -, -, -, -, -, left⟩ := leave_cases sound enabled
    rw [left]
    exact .of_pools rfl
  | detach thread =>
    apply Deals.of_pools
    simp only [perform, detach]
    split <;> rfl
  | acquire thread pool limit name =>
    have had := @deals_acquire system pool limit
    simp only [perform, acquireFor, dealing]
    split <;> rename_i same <;> rw [same] at had
    · exact had.congr rfl
    · exact had
  | dropLease thread name =>
    obtain ⟨lease, held⟩ := Option.isSome_iff_exists.mp enabled.2
    simp only [perform, withLease, dealing, held, Option.elim_some, Option.map_some]
    exact (deals_release lease).around rfl (.of_pools rfl)
  | passLease thread other name =>
    obtain ⟨lease, held⟩ := Option.isSome_iff_exists.mp enabled.2.2.2.1
    simp only [perform, withLease, held, Option.elim_some]
    exact .of_pools rfl
  | dispatch thread name =>
    obtain ⟨lease, held⟩ := Option.isSome_iff_exists.mp enabled.2
    simp only [perform, withLease, dealing, held, Option.elim_some, Option.map_some]
    exact (@deals_dispatchJob (system.takeLease thread name) thread lease).around rfl (.of_pools rfl)
  | free thread =>
    simp only [perform, withCurrentWork, dealing]
    cases system.currentWork? thread with
    | none => exact .of_pools rfl
    | some work => exact deals_vacate work
  | endLogic thread outcome =>
    simp only [perform, withCurrentWork]
    cases system.currentWork? thread with
    | none => exact .of_pools rfl
    | some work =>
      apply Deals.of_pools
      simp only [Option.elim_some, recordOutcome]
      split <;> exact pools_endProgram thread
  | endJob thread =>
    simp only [perform, withCurrentWork, dealing]
    cases system.currentWork? thread with
    | none => exact .of_pools rfl
    | some work =>
      have freed := @deals_vacate (system.endProgram thread) work
      rw [work_endProgram] at freed
      exact freed.around (pools_endProgram thread) (.of_pools rfl)
  | vacate thread =>
    simp only [perform, withCurrentWork, dealing]
    cases system.currentWork? thread with
    | none => exact .of_pools rfl
    | some work => exact (deals_vacate work).congr rfl
  | complete thread =>
    simp only [perform, withCurrentWork]
    cases system.currentWork? thread with
    | none => exact .of_pools rfl
    | some work =>
      apply Deals.of_pools
      simp only [Option.elim_some, completeWork]
      split <;> rfl
  | next station =>
    obtain ⟨helper, job, busy, -⟩ := hasEnded_cases enabled
    simp only [perform, withHelper, busy]
    exact deals_helperNext helper station
  | die station =>
    obtain ⟨helper, job, busy, -⟩ := hasEnded_cases enabled
    simp only [perform, withHelper, busy]
    exact deals_helperDies sound.channels helper station
  | makePool capacity config => exact .addPool capacity config _
  | dropPool pool =>
    have cut : system.Deals (system.modifyPool pool Pool.shutdown) (some (pool, [.shutdown])) := .modifyPool pool rfl
    exact cut.congr (pools_foldl_retire _ _)
  | bar station barred => exact .modifyPool station.pool rfl
  | enterIn | reduce | beginExit | beginDrop | attach | makeRoot | makeFactory | reroute | register | configure | start
  | finish => exact .of_pools rfl

end System

end ScopedWork
