import ScopedWork.Proofs.Channels

/-! # Pictures of changed processes

A step changes scopes, works, slots and threads by number, in lists. Here is what each kind of change
does to the picture. A lease names one slot; every step that touches a pool changes one slot of it, or
cuts them all, and counts leases and helpers, which no program asks about.
-/

namespace ScopedWork

/-- An idle helper leaves at once. -/
theorem Slot.cut_ne_idle {Job : Type} {slot : Slot Job} {helper : ThreadId} : slot.cut.helper ≠ .idle helper := by
  obtain ⟨leased, sender, listener, waiting, barred⟩ := slot
  cases listener with
  | absent | idle other | busy other work => simp only [Slot.cut, ne_eq, reduceCtorEq, not_false_eq_true]

namespace Pool

variable {Job : Type} (pool : Pool Job)

theorem slot_modifySlot (index other : Nat) (change : Slot Job → Slot Job) :
    (pool.modifySlot index change).slot other =
      if other = index ∧ index < pool.slots.length then change (pool.slot other) else pool.slot other :=
  read_modify pool.slots index other change

theorem slot_of_not_lt {index : Nat} (beyond : ¬ index < pool.slots.length) : pool.slot index = {} := by
  rw [slot, List.getElem?_eq_none (Nat.le_of_not_lt beyond), Option.getD_none]

/-- To lease a free slot and give it back at once changes nothing. -/
theorem release_lease {index : Nat} (free : (pool.slot index).leased = false) :
    (pool.lease index).release index = pool := by
  have slots : (pool.slots.modify index ({ · with leased := true })).modify index ({ · with leased := false }) =
      pool.slots := by
    rw [List.modify_modify_eq]
    refine Eq.trans (modify_congr fun here found => ?_) (List.modify_id index pool.slots)
    rw [slot, found, Option.getD_some] at free
    simp only [Function.comp_apply, id_eq, ← free]
  simp only [lease, release, modifySlot, slots, Nat.add_sub_cancel]

theorem leastFree?_eq_some {bound index : Nat} (found : pool.leastFree? bound = some index) :
    index < pool.slots.length ∧ (pool.slot index).leased = false := by
  obtain ⟨within, free, -⟩ := List.findIdx?_eq_some_iff_getElem.mp found
  have inside : index < pool.slots.length := by
    rw [List.length_take] at within
    exact Nat.lt_of_lt_of_le within (Nat.min_le_right _ _)
  rw [List.getElem_take, Bool.not_eq_true'] at free
  refine ⟨inside, ?_⟩
  rw [slot, List.getElem?_eq_getElem inside, Option.getD_some, free]

/-- What comes of an attempt to lease a slot: nothing, or the least free slot, whose helper was there or
has just been started. Only the name of a helper can make the attempt panic. -/
theorem tryAcquire_cases (limit : Nat) (thread : ThreadId) :
    pool.tryAcquire limit thread = (.ok none, pool) ∨
    (∃ payload index, namePanic? (pool.helperName index) = some payload ∧
      pool.tryAcquire limit thread = (.error payload, pool)) ∨
    ∃ index, pool.leastFree? limit = some index ∧
      ((pool.slot index).sender = true ∧
        pool.tryAcquire limit thread = (.ok (some { slot := index, started := false }), pool.lease index) ∨
      (pool.slot index).sender = false ∧ namePanic? (pool.helperName index) = none ∧
        pool.tryAcquire limit thread =
          (.ok (some { slot := index, started := true }), (pool.lease index).spawn index thread)) := by
  cases found : pool.leastFree? limit with
  | none => exact .inl (by simp only [tryAcquire, found])
  | some index =>
    have free := (pool.leastFree?_eq_some found).2
    by_cases warm : (pool.slot index).sender = true
    · exact .inr (.inr ⟨index, rfl, .inl ⟨warm, by simp only [tryAcquire, found, warm, ↓reduceIte]⟩⟩)
    · rw [Bool.not_eq_true] at warm
      cases panicked : namePanic? (pool.helperName index) with
      | some payload =>
        exact .inr (.inl ⟨payload, index, panicked,
          by simp [tryAcquire, found, warm, panicked, pool.release_lease free]⟩)
      | none =>
        by_cases spawned : pool.canSpawn index = true
        · exact .inr (.inr ⟨index, rfl, .inr
            ⟨warm, panicked, by simp [tryAcquire, found, warm, panicked, spawned]⟩⟩)
        · exact .inl (by simp [tryAcquire, found, warm, panicked, spawned, pool.release_lease free])

end Pool

namespace System

variable {system : System}

def HasSlot (system : System) (lease : Lease) : Prop :=
  lease.pool < system.pools.length ∧ lease.slot < (system.pool lease.pool).slots.length

theorem pool_of_not_lt {id : PoolId} (beyond : ¬ id < system.pools.length) : system.pool id = default := by
  rw [pool, List.getElem?_eq_none (Nat.le_of_not_lt beyond), Option.getD_none]

/-- What is no slot reads as one that is free and bare. -/
theorem station_of_not_hasSlot {lease : Lease} (missing : ¬ system.HasSlot lease) :
    system.station lease = {} := by
  by_cases bound : lease.pool < system.pools.length
  · exact Pool.slot_of_not_lt _ fun inside => missing ⟨bound, inside⟩
  · rw [station, pool_of_not_lt bound]
    rfl

theorem hasSlot_of_leased {lease : Lease} (leased : (system.station lease).leased = true) :
    system.HasSlot lease := by
  by_contra missing
  rw [station_of_not_hasSlot missing] at leased
  exact absurd leased (by decide)

theorem hasSlot_of_helper {lease : Lease} (present : (system.station lease).helper ≠ .absent) :
    system.HasSlot lease := by
  by_contra missing
  rw [station_of_not_hasSlot missing] at present
  exact present rfl

/-- Two changes that agree on the pool as it is are the same change. -/
theorem modifyPool_congr {id : PoolId} {change other : Pool WorkId → Pool WorkId}
    (agree : change (system.pool id) = other (system.pool id)) :
    system.modifyPool id change = system.modifyPool id other := by
  simp only [modifyPool]
  congr 1
  refine modify_congr fun here found => ?_
  rwa [pool, found, Option.getD_some] at agree

/-- A pool that is put in its own place changes nothing. -/
theorem modifyPool_self (id : PoolId) : (system.modifyPool id fun _ => system.pool id) = system := by
  rw [@modifyPool_congr system id _ (fun pool => pool) rfl]
  exact congrArg (fun pools => { system with pools }) (List.modify_id id system.pools)

theorem station_modifyPool (id : PoolId) (change : Pool WorkId → Pool WorkId) (lease : Lease) :
    (system.modifyPool id change).station lease =
      if lease.pool = id ∧ id < system.pools.length then (change (system.pool lease.pool)).slot lease.slot
      else system.station lease := by
  rw [station, pool_modifyPool]
  split_ifs <;> rfl

/-- A change of a pool that shows only in one of its slots. -/
theorem station_modifyPool_slot {lease : Lease} {change : Pool WorkId → Pool WorkId}
    {slotChange : Slot WorkId → Slot WorkId} (there : system.HasSlot lease ∨ slotChange {} = {})
    (shows : (change (system.pool lease.pool)).slots =
      (system.pool lease.pool).slots.modify lease.slot slotChange) :
    (system.modifyPool lease.pool change).station =
      Function.update system.station lease (slotChange (system.station lease)) := by
  funext other
  have modified : (system.modifyPool lease.pool change).station other =
      (system.modifyPool lease.pool (·.modifySlot lease.slot slotChange)).station other := by
    rw [station_modifyPool, station_modifyPool]
    refine if_ctx_congr Iff.rfl (fun here => ?_) fun _ => rfl
    rw [here.1, Pool.slot, Pool.slot, shows, Pool.modifySlot]
  rw [modified, station_modifyPool, Pool.slot_modifySlot]
  by_cases same : other = lease
  · subst same
    rw [Function.update_self]
    by_cases has : system.HasSlot other
    · rw [if_pos ⟨rfl, has.1⟩, if_pos ⟨rfl, has.2⟩]
      rfl
    · have blank := there.resolve_left has
      rw [station_of_not_hasSlot has, blank]
      split_ifs with inside found
      · exact absurd ⟨inside.2, found.2⟩ has
      · exact station_of_not_hasSlot has
      · rfl
  · rw [Function.update_of_ne same]
    split_ifs with here found
    · exact absurd (by cases other; cases lease; simp_all) same
    · rfl
    · rfl

/-! ## Scopes, works and threads -/

theorem picture_modifyScope {scope : ScopeId} (change : Scope → Scope) (bound : scope < system.scopes.length) :
    (system.modifyScope scope change).picture = system.picture.modifyScope scope change := by
  refine Picture.ext ?_ rfl rfl rfl rfl rfl
  funext other
  change (system.modifyScope scope change).scope other = Function.update system.scope scope _ other
  rw [scope_modifyScope]
  by_cases same : other = scope
  · subst same
    rw [if_pos ⟨rfl, bound⟩, Function.update_self]
    rfl
  · rw [if_neg fun both => same both.1, Function.update_of_ne same]

theorem picture_setStack (thread : ThreadId) (stack : Stack) :
    (system.setStack thread stack).picture = system.picture :=
  Picture.ext rfl rfl (crew_setStack thread stack) rfl rfl (List.length_modify _ _ _)

theorem picture_retire (helper : ThreadId) : (system.retire helper).picture = system.picture :=
  picture_setStack helper {}

theorem picture_unstack (thread : ThreadId) (scope : ScopeId) :
    (system.unstack thread scope).picture = system.picture :=
  Picture.ext rfl rfl (crew_unstack thread scope) rfl rfl (List.length_modify _ _ _)

section Innermost

variable {thread : ThreadId} {activation : Activation} {others : Multiset Activation}

theorem Innermost.picture_modify (top : system.Innermost thread activation others)
    (change : Activation → Activation) :
    (system.modifyActivation thread change).picture = system.picture.withCrew (change activation ::ₘ others) :=
  Picture.ext rfl rfl (top.modify change).crew_eq rfl rfl (List.length_modify _ _ _)

theorem Innermost.picture_pop (top : system.Innermost thread activation others) :
    (system.popActivation thread).picture = system.picture.withCrew others :=
  Picture.ext rfl rfl top.pop rfl rfl (List.length_modify _ _ _)

end Innermost

theorem picture_addThread (thread : Thread) :
    (system.addThread thread).2.picture = { system.picture with
      crew := (thread.activations : Multiset Activation) + system.crew
      threads := system.threads.length + 1 } :=
  Picture.ext rfl rfl (crew_addThread thread) rfl rfl (by simp [addThread, picture])

/-- A helper that is started has nothing to run yet. -/
theorem picture_addThread_idle (name : String) :
    (system.addThread { name }).2.picture = { system.picture with threads := system.threads.length + 1 } := by
  rw [picture_addThread]
  exact Picture.ext rfl rfl (Multiset.zero_add _) rfl rfl rfl

theorem picture_beginWork {thread : ThreadId} (bound : thread < system.threads.length) (work : WorkId)
    (snapshot : Option Stack) :
    ∃ saved, (system.beginWork thread work snapshot).picture =
      (system.picture.modifyWork work fun w => { w with
        phase := .running, snapshot := none, runs := thread :: w.runs }).withCrew
          (begun work saved ::ₘ system.crew) := by
  obtain ⟨saved, crew⟩ := crew_beginWork bound work snapshot
  refine ⟨saved, ?_⟩
  cases snapshot with
  | none => exact Picture.ext rfl rfl crew rfl rfl (List.length_modify _ _ _)
  | some stack =>
    refine Picture.ext rfl rfl crew rfl rfl ?_
    exact (List.length_modify _ _ _).trans (List.length_modify _ _ _)

/-! ## Slots -/

theorem picture_modifyPool {lease : Lease} {change : Pool WorkId → Pool WorkId}
    (slotChange : Slot WorkId → Slot WorkId) (there : system.HasSlot lease ∨ slotChange {} = {})
    (shows : (change (system.pool lease.pool)).slots =
      (system.pool lease.pool).slots.modify lease.slot slotChange)
    (kept : (change (system.pool lease.pool)).dropped = (system.pool lease.pool).dropped) :
    (system.modifyPool lease.pool change).picture = system.picture.modifyStation lease slotChange := by
  refine Picture.ext rfl rfl rfl (station_modifyPool_slot there shows) ?_ rfl
  funext pool
  change ((system.modifyPool lease.pool change).pool pool).dropped = (system.pool pool).dropped
  rw [pool_modifyPool]
  split_ifs with here
  · rw [here.1, kept]
  · rfl

theorem picture_release (lease : Lease) :
    (system.release lease).picture = system.picture.modifyStation lease ({ · with leased := false }) :=
  picture_modifyPool _ (.inr rfl) rfl rfl

theorem picture_vacate (work : WorkId) : system.picture.Vacated work (system.vacate work).picture := by
  cases held : (system.work work).leased with
  | false =>
    have same : system.vacate work = system.modifyWork work ({ · with leased := false }) := by
      simp only [vacate, held]
    rw [same]
    exact .bare fun lease => Bool.and_eq_false_imp.mpr fun leased =>
      absurd (held.symm.trans leased) Bool.false_ne_true
  | true =>
    cases place : (system.work work).station with
    | none =>
      have same : system.vacate work = system.modifyWork work ({ · with leased := false }) := by
        simp only [vacate, held, place]
      rw [same]
      refine .bare fun lease => ?_
      change ((system.work work).leased && (system.work work).station == some lease) = false
      rw [held, place]
      rfl
    | some lease =>
      have same : (system.vacate work).picture = (system.picture.modifyStation lease
          ({ · with leased := false })).modifyWork work ({ · with leased := false }) := by
        simp only [vacate, held, place]
        change (system.release lease).picture.modifyWork work ({ · with leased := false }) = _
        rw [picture_release]
      rw [same]
      refine .held lease ?_
      change ((system.work work).leased && (system.work work).station == some lease) = true
      rw [held, place]
      exact beq_self_eq_true _

/-- What comes of an attempt to lease a slot of a pool: nothing, or the lease of a free slot with its
helper, which is a new thread if it had to be started. -/
theorem acquire_shapes (system : System) (pool : PoolId) (limit : Nat) :
    system.acquire pool limit = (.ok none, system) ∨
    (∃ payload index, Pool.namePanic? ((system.pool pool).helperName index) = some payload ∧
      system.acquire pool limit = (.error payload, system)) ∨
    ∃ lease : Lease, lease.pool = pool ∧ system.HasSlot lease ∧ (system.station lease).leased = false ∧
      ((system.station lease).sender = true ∧ system.acquire pool limit =
        (.ok (some lease), system.modifyPool lease.pool fun _ => (system.pool lease.pool).lease lease.slot) ∨
      (system.station lease).sender = false ∧ ∃ name, system.acquire pool limit =
        (.ok (some lease), ((system.modifyPool lease.pool fun _ =>
          ((system.pool lease.pool).lease lease.slot).spawn lease.slot system.threads.length).addThread
            { name }).2)) := by
  rcases (system.pool pool).tryAcquire_cases limit system.threads.length with
    missed | ⟨payload, index, panicked, missed⟩ | ⟨index, found, had⟩
  · exact .inl (by simp only [acquire, missed, modifyPool_self])
  · exact .inr (.inl ⟨payload, index, panicked, by simp only [acquire, missed, modifyPool_self]⟩)
  · obtain ⟨inside, free⟩ := Pool.leastFree?_eq_some _ found
    have bound : pool < system.pools.length := by
      by_contra beyond
      rw [pool_of_not_lt beyond] at inside
      exact Nat.not_lt_zero _ inside
    refine .inr (.inr ⟨{ pool, slot := index }, rfl, ⟨bound, inside⟩, free, ?_⟩)
    rcases had with ⟨warm, had⟩ | ⟨cold, -, had⟩
    · refine .inl ⟨warm, ?_⟩
      simp only [acquire, had, Bool.false_eq_true, ↓reduceIte]
    · refine .inr ⟨cold, (((system.pool pool).lease index).spawn index system.threads.length).helperName index, ?_⟩
      simp only [acquire, had, ↓reduceIte]

/-- Without a lease nothing has changed, and with one the picture shows it. -/
theorem acquire_cases (system : System) (pool : PoolId) (limit : Nat) :
    (∃ result, system.acquire pool limit = (result, system) ∧ ∀ lease, result ≠ .ok (some lease)) ∨
    ∃ lease after, system.acquire pool limit = (.ok (some lease), after) ∧ lease.pool = pool ∧
      system.picture.Granted lease after.picture ∧ after.scopes = system.scopes ∧ after.works = system.works ∧
      ∀ thread < system.threads.length, after.thread thread = system.thread thread := by
  rcases system.acquire_shapes pool limit with
    missed | ⟨payload, _, _, missed⟩ | ⟨lease, same, there, free, ⟨warm, had⟩ | ⟨cold, name, had⟩⟩
  · exact .inl ⟨.ok none, missed, by simp⟩
  · exact .inl ⟨.error payload, missed, by simp⟩
  · refine .inr ⟨lease, _, had, same, ?_, rfl, rfl, fun _ _ => rfl⟩
    rw [picture_modifyPool ({ · with leased := true }) (.inl there) rfl rfl]
    exact .connected free warm
  · refine .inr ⟨lease, _, had, same, ?_, rfl, rfl, fun thread lower => ?_⟩
    · rw [picture_addThread_idle, picture_modifyPool ({ · with
        leased := true, sender := true, helper := .idle system.threads.length }) (.inl there)
        (List.modify_modify_eq _ _ _ _) rfl]
      exact .started free cold
    · change (system.threads ++ [_])[thread]?.getD default = system.threads[thread]?.getD default
      rw [List.getElem?_append_left lower]

/-! ## Channels -/

/-- A work that begins at once has been added, its slot has changed in its own way, and its thread has
it on top. -/
private theorem picture_begun {thread : ThreadId} {lease : Lease} (work : Work) (snapshot : Option Stack)
    (pool : Pool WorkId) (placement : Placement) (slotChange : Slot WorkId → Slot WorkId)
    (here : thread < system.threads.length) (there : system.HasSlot lease ∨ slotChange {} = {})
    (shows : pool.slots = (system.pool lease.pool).slots.modify lease.slot slotChange)
    (kept : pool.dropped = (system.pool lease.pool).dropped) :
    ∃ saved, ((((system.addWork work).2.modifyPool lease.pool fun _ => pool).beginWork thread
      system.works.length snapshot).modifyWork system.works.length ({ · with placement })).picture =
        ((system.picture.modifyStation lease slotChange).addWork { work with
          phase := .running, snapshot := none, runs := thread :: work.runs, placement }).withCrew
            (begun system.works.length saved ::ₘ system.crew) := by
  let sent := (system.addWork work).2.modifyPool lease.pool fun _ => pool
  have slots : sent.picture = (system.picture.modifyStation lease slotChange).addWork work :=
    @picture_modifyPool (system.addWork work).2 lease _ slotChange there shows kept
  obtain ⟨saved, begins⟩ := @picture_beginWork sent thread here system.works.length snapshot
  refine ⟨saved, ?_⟩
  change (sent.beginWork thread system.works.length snapshot).picture.modifyWork system.works.length _ = _
  rw [begins, slots]
  refine Picture.ext rfl ?_ rfl rfl rfl rfl
  change ((system.works ++ [work]).modify _ _).modify _ _ = _
  rw [modify_append_last, modify_append_last]
  rfl

/-- A new work that is sent through a lease goes to the helper of its slot, or waits there, or comes
back. The slot's channel must have room: the one who holds the lease is the only one to send. -/
theorem picture_handOver {thread : ThreadId} {lease : Lease} (work : Work) (snapshot : Option Stack)
    (here : thread < system.threads.length)
    (there : ∀ helper, (system.station lease).helper = .idle helper → helper < system.threads.length)
    (room : (system.station lease).waiting = none) :
    system.picture.Sent thread lease work
      ((system.addWork work).2.handOver thread lease system.works.length snapshot).2.picture := by
  have handed {handoff : Handoff} {pool : Pool WorkId}
      (dispatched : (system.pool lease.pool).dispatch lease.slot system.works.length = (handoff, pool)) :
      ((system.addWork work).2.pool lease.pool).dispatch lease.slot system.works.length = (handoff, pool) :=
    dispatched
  have empty : ((system.pool lease.pool).slot lease.slot).waiting = none := room
  by_cases connected : ((system.pool lease.pool).slot lease.slot).sender = true
  · cases found : ((system.pool lease.pool).slot lease.slot).helper with
    | absent =>
      have dispatched := handed (by simp only [Pool.dispatch, connected, found, ↓reduceIte]; rfl)
      obtain ⟨saved, same⟩ := picture_begun work snapshot
        ((system.pool lease.pool).modifySlot lease.slot ({ · with sender := false })) .returned
        ({ · with sender := false }) here (.inr rfl) rfl rfl
      simp only [handOver, dispatched]
      rw [same]
      exact .returned saved (.inr found)
    | idle helper =>
      have dispatched := handed (by simp only [Pool.dispatch, connected, found, ↓reduceIte]; rfl)
      have present : system.HasSlot lease := hasSlot_of_helper (by rw [station, found]; simp)
      obtain ⟨saved, same⟩ := picture_begun work snapshot
        ((system.pool lease.pool).modifySlot lease.slot ({ · with helper := .busy helper system.works.length }))
        (.helper helper) ({ · with helper := .busy helper system.works.length }) (there helper found) (.inl present)
        rfl rfl
      simp only [handOver, dispatched]
      rw [same]
      exact .begun helper saved found
    | busy helper job =>
      have dispatched := handed (by simp only [Pool.dispatch, connected, found, empty, ↓reduceIte]; rfl)
      have present : system.HasSlot lease := hasSlot_of_helper (by rw [station, found]; simp)
      let sent := (system.addWork work).2.modifyPool lease.pool fun _ =>
        (system.pool lease.pool).modifySlot lease.slot ({ · with waiting := some system.works.length })
      have slots : sent.picture = (system.picture.modifyStation lease
          ({ · with waiting := some system.works.length })).addWork work :=
        @picture_modifyPool (system.addWork work).2 lease _ ({ · with waiting := some system.works.length })
          (.inl present) rfl rfl
      simp only [handOver, dispatched]
      change system.picture.Sent thread lease work (sent.picture.modifyWork system.works.length _)
      have queued : sent.picture.modifyWork system.works.length ({ · with placement := .queued }) =
          (system.picture.modifyStation lease ({ · with waiting := some system.works.length })).addWork
            { work with placement := .queued } := by
        rw [slots]
        exact Picture.ext rfl (modify_append_last _ _ _) rfl rfl rfl rfl
      rw [queued]
      exact .queued helper job found room
  · have dispatched := handed (by simp only [Pool.dispatch, connected]; rfl)
    rw [Bool.not_eq_true] at connected
    obtain ⟨saved, same⟩ := picture_begun work snapshot (system.pool lease.pool) .returned id here (.inr rfl)
      (List.modify_id _ _).symm rfl
    simp only [handOver, dispatched]
    rw [same]
    have unchanged : system.picture.modifyStation lease id =
        system.picture.modifyStation lease ({ · with sender := false }) := by
      have cut : (system.station lease).sender = false := connected
      refine Picture.ext rfl rfl rfl ?_ rfl rfl
      change Function.update system.station lease _ = Function.update system.station lease _
      rw [← cut]
      rfl
    rw [unchanged]
    exact .returned saved (.inl connected)

/-! ## Helpers that have ended a work -/

/-- A helper that has ended a work begins the one that waits, or else rests or leaves. -/
theorem picture_helperNext {station : Lease} {helper : ThreadId} {job : WorkId}
    (busy : (system.station station).helper = .busy helper job) (here : helper < system.threads.length) :
    ((system.station station).waiting = none ∧
      (system.helperNext helper station).2.picture = system.picture.modifyStation station fun slot =>
        { slot with helper := if slot.sender then .idle helper else .absent }) ∨
    ∃ next saved, (system.station station).waiting = some next ∧
      (system.helperNext helper station).2.picture =
        ((system.picture.modifyStation station ({ · with helper := .busy helper next, waiting := none })).modifyWork
          next fun work => { work with
            phase := .running, snapshot := none, runs := helper :: work.runs, placement := .helper helper }).withCrew
              (begun next saved ::ₘ system.crew) := by
  have present : system.HasSlot station := hasSlot_of_helper (by rw [busy]; simp)
  change ((system.pool station.pool).slot station.slot).helper = _ at busy
  cases waiting : ((system.pool station.pool).slot station.slot).waiting with
  | none =>
    let rest : Helper WorkId := if (system.station station).sender then .idle helper else .absent
    let turned := system.modifyPool station.pool fun _ =>
      (system.pool station.pool).modifySlot station.slot ({ · with helper := rest })
    have taken : (system.pool station.pool).nextJob station.slot =
        (none, (system.pool station.pool).modifySlot station.slot ({ · with helper := rest })) := by
      simp only [Pool.nextJob, busy, waiting]
      rfl
    have slots : turned.picture = system.picture.modifyStation station ({ · with helper := rest }) :=
      picture_modifyPool _ (.inl present) rfl rfl
    have result : (system.helperNext helper station).2 = turned ∨
        (system.helperNext helper station).2 = turned.retire helper := by
      simp only [helperNext, taken]
      split
      · exact .inr rfl
      · exact .inl rfl
      · exact .inl rfl
    refine .inl ⟨waiting, ?_⟩
    rcases result with result | result
    · rw [result]
      exact slots
    · rw [result, picture_retire]
      exact slots
  | some next =>
    have taken : (system.pool station.pool).nextJob station.slot = (some (helper, next),
        (system.pool station.pool).modifySlot station.slot
          ({ · with helper := .busy helper next, waiting := none })) := by
      simp only [Pool.nextJob, busy, waiting]
    let turned := system.modifyPool station.pool fun _ => (system.pool station.pool).modifySlot
      station.slot ({ · with helper := .busy helper next, waiting := none })
    have slots : turned.picture = system.picture.modifyStation station
        ({ · with helper := .busy helper next, waiting := none }) :=
      picture_modifyPool _ (.inl present) rfl rfl
    obtain ⟨saved, begins⟩ := @picture_beginWork turned helper here next (turned.work next).snapshot
    refine .inr ⟨next, saved, waiting, ?_⟩
    simp only [helperNext, taken]
    change (turned.beginWork helper next (turned.work next).snapshot).picture.modifyWork next _ = _
    rw [begins, slots]
    exact Picture.ext rfl (List.modify_modify_eq _ _ _ _) rfl rfl rfl rfl

/-- A helper that dies takes the work that waits in its channel with it. The work has held the lease of
the slot, so the slot is free. -/
theorem picture_helperDies {station : Lease} (helper : ThreadId)
    (present : (system.station station).helper ≠ .absent)
    (held : ∀ work, (system.station station).waiting = some work →
      (system.work work).leased = true ∧ (system.work work).station = some station) :
    ((system.station station).waiting = none ∧
      (system.helperDies helper station).2.picture = system.picture.modifyStation station
        ({ · with helper := .absent })) ∨
    ∃ lost, (system.station station).waiting = some lost ∧
      (system.helperDies helper station).2.picture =
        (system.picture.modifyStation station
          ({ · with leased := false, helper := .absent, waiting := none })).modifyWork lost
            ({ · with leased := false, phase := .discarded, snapshot := none }) := by
  have there := hasSlot_of_helper present
  let dead := (system.modifyPool station.pool fun _ => (system.pool station.pool).modifySlot
    station.slot ({ · with helper := .absent, waiting := none })).retire helper
  have slots : dead.picture = system.picture.modifyStation station
    ({ · with helper := .absent, waiting := none }) := by
    rw [picture_retire]
    exact picture_modifyPool _ (.inl there) rfl rfl
  cases waiting : ((system.pool station.pool).slot station.slot).waiting with
  | none =>
    refine .inl ⟨waiting, ?_⟩
    have result : (system.helperDies helper station).2 = dead := by
      simp only [helperDies, Pool.helperDies, waiting]
      rfl
    have empty : (system.station station).waiting = none := waiting
    rw [result, slots]
    refine Picture.ext rfl rfl rfl ?_ rfl rfl
    change Function.update system.station station _ = Function.update system.station station _
    rw [← empty]
    rfl
  | some lost =>
    refine .inr ⟨lost, waiting, ?_⟩
    obtain ⟨leased, place⟩ := held lost waiting
    have result : (system.helperDies helper station).2.picture =
        (dead.release station).picture.modifyWork lost
          ({ · with leased := false, phase := .discarded, snapshot := none }) := by
      have gaveUp : dead.vacate lost = (dead.release station).modifyWork lost ({ · with leased := false }) := by
        have leased' : (dead.work lost).leased = true := leased
        have place' : (dead.work lost).station = some station := place
        simp only [vacate, leased', place']
      have died : (system.helperDies helper station).2 =
          (dead.vacate lost).modifyWork lost ({ · with phase := .discarded, snapshot := none }) := by
        simp only [helperDies, Pool.helperDies, waiting]
        rfl
      rw [died, gaveUp]
      exact Picture.ext rfl (List.modify_modify_eq _ _ _ _) rfl rfl rfl rfl
    rw [result, picture_release, slots, Picture.modifyStation_modifyStation]
    rfl

/-! ## Pools that are dropped -/

private theorem picture_foldl_retire (helpers : List ThreadId) (system : System) :
    (helpers.foldl retire system).picture = system.picture := by
  induction helpers generalizing system with
  | nil => rfl
  | cons helper rest ih => exact (ih (system.retire helper)).trans (picture_retire helper)

theorem station_modifyPool_shutdown {pool : PoolId} (bound : pool < system.pools.length) (lease : Lease) :
    (system.modifyPool pool Pool.shutdown).station lease =
      if lease.pool = pool then (system.station lease).cut else system.station lease := by
  rw [station_modifyPool]
  by_cases here : lease.pool = pool
  · rw [if_pos ⟨here, bound⟩, if_pos here, Pool.shutdown, Pool.slot, List.getElem?_map, System.station, Pool.slot]
    cases (system.pool lease.pool).slots[lease.slot]? <;> rfl
  · rw [if_neg fun both => here both.1, if_neg here]

/-- A pool that is dropped cuts the channel of each of its slots. -/
theorem picture_shutdown {pool : PoolId} (bound : pool < system.pools.length) :
    (system.shutdown pool).picture = { system.picture with
      station := fun lease => if lease.pool = pool then (system.station lease).cut else system.station lease
      dropped := Function.update system.picture.dropped pool true } := by
  obtain ⟨helpers, shape⟩ : ∃ helpers : List ThreadId, system.shutdown pool =
    helpers.foldl retire (system.modifyPool pool Pool.shutdown) := ⟨_, rfl⟩
  rw [shape, picture_foldl_retire]
  refine Picture.ext rfl rfl rfl (funext fun lease => station_modifyPool_shutdown bound lease) ?_ rfl
  funext other
  change ((system.modifyPool pool Pool.shutdown).pool other).dropped = _
  rw [pool_modifyPool]
  by_cases here : other = pool
  · subst here
    rw [if_pos ⟨rfl, bound⟩]
    dsimp only
    rw [Function.update_self]
    rfl
  · rw [if_neg fun both => here both.1]
    dsimp only
    rw [Function.update_of_ne here]
    rfl

end System

end ScopedWork
