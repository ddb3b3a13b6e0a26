import Mathlib.Logic.Relation
import ScopedWork.Proofs.Deeds

/-! # The count of a pool's live leases

A pool keeps count of its live leases beside the marks of its slots. Whatever happens to a pool, a
slot is leased that was free, or one is freed that was leased, or no mark changes; so the count and
the marks never part, and the number of slots stays what it was when the pool was made.
-/

namespace ScopedWork

namespace Pool

variable {Job : Type} {pool after : Pool Job}

/-- The count of live leases is the number of leased slots. -/
def Counted (pool : Pool Job) : Prop :=
  pool.busy = pool.slots.countP (·.leased)

/-- What can happen to the marks of a pool at once. -/
inductive Step (pool : Pool Job) : Pool Job → Prop
  /-- Helpers, channels and the system's refusals may change, but no slot is leased or freed. -/
  | keep {after : Pool Job} (marks : after.slots.map (·.leased) = pool.slots.map (·.leased))
    (busy : after.busy = pool.busy) : Step pool after
  | lease {index : Nat} (inside : index < pool.slots.length) (free : (pool.slot index).leased = false) :
    Step pool (pool.lease index)
  | release {index : Nat} (leased : (pool.slot index).leased = true) : Step pool (pool.release index)

theorem lt_of_leased {index : Nat} (leased : (pool.slot index).leased = true) : index < pool.slots.length := by
  by_contra beyond
  rw [slot_of_not_lt pool beyond] at leased
  exact Bool.false_ne_true leased

theorem slots_getElem? {index : Nat} (inside : index < pool.slots.length) :
    pool.slots[index]? = some (pool.slot index) := by
  rw [slot, List.getElem?_eq_getElem inside, Option.getD_some]

theorem Step.capacity_eq (step : pool.Step after) : after.capacity = pool.capacity := by
  cases step with
  | keep marks => simpa only [List.length_map, capacity] using congrArg List.length marks
  | lease => exact List.length_modify _ _ _
  | release => exact List.length_modify _ _ _

theorem Step.counted (step : pool.Step after) (counted : pool.Counted) : after.Counted := by
  rw [Counted] at counted ⊢
  cases step with
  | keep marks busy =>
    have marked (slots : List (Slot Job)) : slots.countP (·.leased) = (slots.map (·.leased)).countP id := by
      rw [List.countP_map]
      rfl
    rw [busy, counted, marked, marked, marks]
  | @lease index inside free =>
    have moved := countP_modify (·.leased) ({ · with leased := true }) (slots_getElem? inside)
    simp only [free, Bool.false_eq_true, ↓reduceIte] at moved
    change pool.busy + 1 = (pool.slots.modify index _).countP _
    omega
  | @release index leased =>
    have moved := countP_modify (·.leased) ({ · with leased := false }) (slots_getElem? (lt_of_leased leased))
    simp only [leased, Bool.false_eq_true, ↓reduceIte] at moved
    change pool.busy - 1 = (pool.slots.modify index _).countP _
    omega

/-- Pools that a course of such changes leads from one to the other. -/
def Leads (pool after : Pool Job) : Prop :=
  Relation.ReflTransGen Step pool after

theorem Leads.capacity_eq (leads : pool.Leads after) : after.capacity = pool.capacity := by
  induction leads with
  | refl => rfl
  | tail _ step ih => exact step.capacity_eq.trans ih

theorem Leads.counted (leads : pool.Leads after) (counted : pool.Counted) : after.Counted := by
  induction leads with
  | refl => exact counted
  | tail _ step ih => exact step.counted ih

/-- A change of one slot that neither leases nor frees it. -/
theorem marks_modifySlot (index : Nat) {change : Slot Job → Slot Job}
    (same : ∀ slot, (change slot).leased = slot.leased) :
    (pool.modifySlot index change).slots.map (·.leased) = pool.slots.map (·.leased) :=
  (map_modify_of_comm same pool.slots index).trans (List.modify_id index _)

theorem Step.modifySlot (index : Nat) {change : Slot Job → Slot Job}
    (same : ∀ slot, (change slot).leased = slot.leased) : pool.Step (pool.modifySlot index change) :=
  .keep (marks_modifySlot index same) rfl

theorem counted_ofConfig (capacity : Nat) (config : Setting.Config) (stackBound : Option Nat) :
    (ofConfig capacity config stackBound : Pool Job).Counted := by
  rw [Counted, ofConfig, List.countP_replicate]
  rfl

/-! ## The operations of a pool -/

theorem leads_tryAcquire (limit : Nat) (thread : ThreadId) : pool.Leads (pool.tryAcquire limit thread).2 := by
  rcases pool.tryAcquire_shapes limit thread with ⟨same, -⟩ | ⟨index, found, had⟩
  · rw [same]
    exact .refl
  · obtain ⟨inside, free⟩ := pool.leastFree?_eq_some found
    have leased : pool.Leads (pool.lease index) := .single (.lease inside free)
    rcases had with ⟨-, had⟩ | ⟨-, -, had⟩
    · rw [had]
      exact leased
    · rw [had]
      exact leased.tail (.keep (marks_modifySlot index fun _ => rfl) rfl)

theorem step_dispatch (index : Nat) (job : Job) : pool.Step (pool.dispatch index job).2 := by
  simp only [dispatch]
  split
  · split
    · exact .modifySlot index fun _ => rfl
    · exact .modifySlot index fun _ => rfl
    · exact .modifySlot index fun _ => rfl
    · exact .keep rfl rfl
  · exact .keep rfl rfl

theorem step_nextJob (index : Nat) : pool.Step (pool.nextJob index).2 := by
  simp only [nextJob]
  split
  · exact .modifySlot index fun _ => rfl
  · exact .modifySlot index fun _ => rfl
  · exact .keep rfl rfl
  · exact .keep rfl rfl

theorem step_helperDies (index : Nat) : pool.Step (pool.helperDies index).2 :=
  .modifySlot index fun _ => rfl

theorem leased_helperDies (pool : Pool Job) (index other : Nat) :
    ((pool.helperDies index).2.slot other).leased = (pool.slot other).leased := by
  rw [helperDies, slot_modifySlot]
  split_ifs <;> rfl

theorem step_shutdown : pool.Step pool.shutdown := by
  refine .keep ?_ rfl
  rw [shutdown, List.map_map]
  rfl

/-- Whatever is done to a pool, it goes on counting its leases, if only live ones are given back. -/
theorem leads_undergo {deed : Deed Job} (live : ∀ index, deed = .release index → (pool.slot index).leased = true) :
    pool.Leads (pool.undergo deed) := by
  cases deed with
  | acquire limit thread => exact leads_tryAcquire limit thread
  | release index => exact .single (.release (live index rfl))
  | dispatch index job => exact .single (step_dispatch index job)
  | next index => exact .single (step_nextJob index)
  | die index => exact .single (step_helperDies index)
  | bar index barred => exact .single (.modifySlot index fun _ => rfl)
  | shutdown => exact .single step_shutdown

end Pool

namespace System

variable {system after : System} {events : List Event}

/-- What a step can do to the pools: those there are go on, and a new one has no live lease. -/
structure Stocks (system after : System) : Prop where
  length_le : system.pools.length ≤ after.pools.length
  kept : ∀ id < system.pools.length, (system.pool id).Leads (after.pool id)
  made : ∀ id, ¬ id < system.pools.length → (after.pool id).Counted

namespace Stocks

theorem of_pools (same : after.pools = system.pools) : system.Stocks after where
  length_le := Nat.le_of_eq (congrArg List.length same.symm)
  kept id _ := by
    rw [pool, pool, same]
    exact .refl
  made id beyond := by
    rw [pool_of_not_lt (by rwa [same])]
    rfl

theorem of_deals {dealt : Option (PoolId × List (Pool.Deed WorkId))} (deals : system.Deals after dealt)
    (leads : ∀ place deeds, dealt = some (place, deeds) →
      (system.pool place).Leads (deeds.foldl Pool.undergo (system.pool place))) : system.Stocks after where
  length_le := by
    by_contra fewer
    exact Nat.lt_irrefl _ (deals.kept after.pools.length (Nat.lt_of_not_le fewer)).1
  kept id bound := by
    rw [(deals.kept id bound).2]
    cases dealt with
    | none => exact .refl
    | some dealing =>
      obtain ⟨place, deeds⟩ := dealing
      simp only [dealtTo]
      split_ifs with here
      · exact here ▸ leads place deeds rfl
      · exact .refl
  made id beyond := by
    by_cases bound : id < after.pools.length
    · obtain ⟨capacity, config, stackBound, same⟩ := deals.made id beyond bound
      rw [same]
      exact Pool.counted_ofConfig capacity config stackBound
    · rw [pool_of_not_lt bound]
      rfl

end Stocks

theorem stocks_getGlobalPool : system.Stocks system.getGlobalPool.2 :=
  .of_deals deals_getGlobalPool fun _ _ none_dealt => absurd none_dealt.symm (Option.some_ne_none _)

/-- One deed to a pool, which gives no lease back that is not live. -/
private theorem leads_single (place : PoolId) {deed : Pool.Deed WorkId}
    (live : ∀ index, deed = .release index → ((system.pool place).slot index).leased = true) :
    (system.pool place).Leads ([deed].foldl Pool.undergo (system.pool place)) :=
  Pool.leads_undergo live

/-- What a work holds is live, so it may be given back. -/
private theorem leads_giveBack (sound : system.picture.Sound events) (work : Option WorkId) {place : PoolId}
    {deeds : List (Pool.Deed WorkId)} (dealt : ((work.bind fun work => (system.work work).held).map fun lease =>
      (lease.pool, [Pool.Deed.release lease.slot])) = some (place, deeds)) :
    (system.pool place).Leads (deeds.foldl Pool.undergo (system.pool place)) := by
  obtain ⟨lease, held, same⟩ := Option.map_eq_some_iff.mp dealt
  obtain ⟨work, -, held⟩ := Option.bind_eq_some_iff.mp held
  obtain ⟨rfl, rfl⟩ := Prod.mk.inj same
  refine leads_single lease.pool fun index same => ?_
  obtain rfl := Pool.Deed.release.inj same
  exact leased_of_work sound work lease (holds_of_held held)

/-- Whatever an action does to a pool, the pool goes on counting its leases. -/
theorem leads_dealing (sound : system.picture.Sound events) {action : Action} (enabled : system.Enabled action)
    {place : PoolId} {deeds : List (Pool.Deed WorkId)} (dealt : system.dealing action = some (place, deeds)) :
    (system.pool place).Leads (deeds.foldl Pool.undergo (system.pool place)) := by
  cases action with
  | submit thread scope =>
    obtain ⟨rfl, rfl⟩ := Prod.mk.inj (Option.some.inj dealt)
    dsimp only [List.foldl_cons]
    refine Relation.ReflTransGen.trans
      (Pool.leads_tryAcquire (system.scope scope).concurrency system.threads.length) ?_
    split
    · exact .single (Pool.step_dispatch _ _)
    · exact .refl
    · exact .refl
  | dropLease thread name =>
    obtain ⟨activation, others, lease, top, -, found, held⟩ := lease_cases enabled.1 enabled.2
    simp only [dealing, held, Option.map_some, Option.some.injEq, Prod.mk.injEq] at dealt
    obtain ⟨rfl, rfl⟩ := dealt
    refine leads_single lease.pool fun index same => ?_
    obtain rfl := Pool.Deed.release.inj same
    exact leased_of_crew sound top.mem (holds_of_lookup found)
  | dispatch thread name =>
    obtain ⟨lease, -, same⟩ := Option.map_eq_some_iff.mp dealt
    obtain ⟨rfl, rfl⟩ := Prod.mk.inj same
    exact leads_single lease.pool (by simp)
  | free thread | endJob thread | vacate thread => exact leads_giveBack sound _ dealt
  | die station =>
    obtain ⟨rfl, rfl⟩ := Prod.mk.inj (Option.some.inj dealt)
    dsimp only [List.foldl_cons]
    refine Relation.ReflTransGen.head (Pool.step_helperDies station.slot) ?_
    split
    · rename_i work waiting
      have waits := sound.channels.waits station work waiting
      have leased := leased_of_work sound work station (holds_eq_true.mpr ⟨waits.leased, waits.place⟩)
      exact .single (.release ((Pool.leased_helperDies _ _ _).trans leased))
    · exact .refl
  | acquire | next | bar | dropPool =>
    obtain ⟨rfl, rfl⟩ := Prod.mk.inj (Option.some.inj dealt)
    exact leads_single _ (by simp)
  | enter | enterIn | reduce | beginExit | beginDrop | leave | attach | detach | passLease | endLogic | complete
  | makePool | makeRoot | makeFactory | reroute | register | configure | start | finish =>
    exact absurd dealt.symm (Option.some_ne_none _)

theorem stocks_perform (sound : system.picture.Sound events) {action : Action} (enabled : system.Enabled action) :
    system.Stocks (system.perform action) :=
  .of_deals (deals_perform sound enabled) fun _ _ => leads_dealing sound enabled

end System

/-- At every point of every run a pool counts as many live leases as it has leased slots. -/
theorem Reaches.counted {setting : Setting.State} {history : List Moment} {system : System}
    (reached : Reaches (.initial setting) history system) (id : PoolId) : (system.pool id).Counted := by
  induction reached with
  | start => rfl
  | @step history system action reached enabled ih =>
    have stocks := System.stocks_perform reached.sound enabled
    by_cases bound : id < system.pools.length
    · exact (stocks.kept id bound).counted ih
    · exact stocks.made id bound

end ScopedWork
