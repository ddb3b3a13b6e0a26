import ScopedWork.Proofs.Naming

/-! # Helpers at rest

As long as every logic is over before its submitter goes on, a free slot has a helper with nothing to
run, or none. What is done on behalf of one thread keeps it so, and touches no other thread that runs
something, no work that was there before, and no slot that was leased before, but that its pool may be
dropped.
-/

namespace ScopedWork

/-! ## Slots that have been cut -/

namespace Slot

variable {slot : Slot WorkId}

theorem cut_cut (slot : Slot WorkId) : slot.cut.cut = slot.cut := by
  obtain ⟨leased, sender, helper, waiting, barred⟩ := slot
  cases helper with
  | absent | idle helper | busy helper work => rfl

/-- To cut twice is to cut once. -/
theorem same_or_cut_trans {first second third : Slot WorkId} (earlier : second = first ∨ second = first.cut)
    (later : third = second ∨ third = second.cut) : third = first ∨ third = first.cut := by
  rcases earlier with rfl | rfl
  · exact later
  · rw [cut_cut, or_self] at later
    exact .inr later

theorem cut_ne_busy (atRest : ∀ helper work, slot.helper ≠ .busy helper work) (helper : ThreadId) (work : WorkId) :
    slot.cut.helper ≠ .busy helper work := by
  obtain ⟨leased, sender, listener, waiting, barred⟩ := slot
  cases listener with
  | absent | idle other => simp only [Slot.cut, ne_eq, reduceCtorEq, not_false_eq_true]
  | busy other job => exact absurd rfl (atRest other job)

end Slot

/-! ## Readiness -/

namespace System

variable {system middle after : System} {thread : ThreadId}

/-- The helpers of free slots have nothing to run, and every helper can be named. -/
structure Staffed (system : System) : Prop where
  free : ∀ lease, (system.station lease).leased = false →
    (system.station lease).waiting = none ∧ ∀ helper work, (system.station lease).helper ≠ .busy helper work
  rested : ∀ lease helper, (system.station lease).helper = .idle helper →
    helper < system.threads.length ∧ (system.thread helper).activations = []
  apart : ∀ first second helper, (system.station first).helper = .idle helper →
    (system.station second).helper = .idle helper → first = second
  named : ∀ pool, Pool.isStem (system.pool pool).nameStem = true
  /-- Those of a global pool that is yet to be made, too. -/
  nameable : system.globalPool = none → Pool.isStem system.setting.read.1.nameStem = true

/-- A thread is in the midst of something, and the helpers are at rest. -/
structure Ready (system : System) (thread : ThreadId) : Prop where
  staffed : system.Staffed
  active : (system.thread thread).activations ≠ []

/-- What is done on behalf of a thread minds the others. -/
structure Minds (thread : ThreadId) (system after : System) : Prop where
  ready : after.Ready thread
  works : system.works.length ≤ after.works.length
  recorded : ∀ work, work < system.works.length → after.work work = system.work work
  others : ∀ other, other ≠ thread → (system.thread other).activations ≠ [] →
    after.thread other = system.thread other
  chain : (after.thread thread).activations.tail = (system.thread thread).activations.tail
  saved : (after.activation thread).saved = (system.activation thread).saved
  slots : ∀ lease, (system.station lease).leased = true →
    after.station lease = system.station lease ∨ after.station lease = (system.station lease).cut

namespace Minds

theorem refl (ready : system.Ready thread) : system.Minds thread system where
  ready := ready
  works := Nat.le_refl _
  recorded _ _ := rfl
  others _ _ _ := rfl
  chain := rfl
  saved := rfl
  slots _ _ := .inl rfl

theorem trans (first : system.Minds thread middle) (second : middle.Minds thread after) :
    system.Minds thread after where
  ready := second.ready
  works := Nat.le_trans first.works second.works
  recorded work bound := by
    rw [second.recorded work (Nat.lt_of_lt_of_le bound first.works), first.recorded work bound]
  others other ne active := by
    have unchanged := first.others other ne active
    rw [second.others other ne (unchanged ▸ active), unchanged]
  chain := second.chain.trans first.chain
  saved := second.saved.trans first.saved
  slots lease leased := by
    have before := first.slots lease leased
    refine Slot.same_or_cut_trans before (second.slots lease ?_)
    rcases before with same | cut
    · rw [same, leased]
    · rw [cut]
      exact leased

end Minds

/-! ## Steps that leave the pools alone -/

theorem station_of_pools (same : after.pools = system.pools) (lease : Lease) :
    after.station lease = system.station lease := by
  rw [station, station, pool, pool, same]

theorem work_of_works (same : after.works = system.works) (work : WorkId) : after.work work = system.work work := by
  rw [System.work, System.work, same]

/-- Where channels have been cut, and perhaps one slot has changed hands, helpers are still at rest. A
helper that turns idle in that slot is idle in no other. -/
theorem Staffed.of_change (staffed : system.Staffed) (spot : Option Lease)
    (elsewhere : ∀ lease, spot ≠ some lease →
      after.station lease = system.station lease ∨ after.station lease = (system.station lease).cut)
    (here : ∀ lease, spot = some lease →
      ((after.station lease).leased = false → (after.station lease).waiting = none ∧
        ∀ helper work, (after.station lease).helper ≠ .busy helper work) ∧
      ∀ helper, (after.station lease).helper = .idle helper →
        (helper < after.threads.length ∧ (after.thread helper).activations = []) ∧
          ∀ other, spot ≠ some other → (system.station other).helper ≠ .idle helper)
    (rested : ∀ lease helper, spot ≠ some lease → (system.station lease).helper = .idle helper →
      helper < after.threads.length ∧ (after.thread helper).activations = [])
    (named : ∀ pool, Pool.isStem (after.pool pool).nameStem = true)
    (nameable : after.globalPool = none → Pool.isStem after.setting.read.1.nameStem = true) : after.Staffed := by
  have was_idle {lease : Lease} {helper : ThreadId} (off : spot ≠ some lease)
      (idle : (after.station lease).helper = .idle helper) : (system.station lease).helper = .idle helper := by
    rcases elsewhere lease off with same | cut
    · rw [← same, idle]
    · exact absurd (cut ▸ idle) Slot.cut_ne_idle
  constructor
  case free =>
    intro lease leased
    by_cases off : spot = some lease
    · exact (here lease off).1 leased
    · rcases elsewhere lease off with same | cut
      · rw [same] at leased ⊢
        exact staffed.free lease leased
      · rw [cut] at leased ⊢
        exact ⟨(staffed.free lease leased).1, Slot.cut_ne_busy (staffed.free lease leased).2⟩
  case rested =>
    intro lease helper idle
    by_cases off : spot = some lease
    · exact ((here lease off).2 helper idle).1
    · exact rested lease helper off (was_idle off idle)
  case apart =>
    intro first second helper left right
    by_cases atFirst : spot = some first
    · by_cases atSecond : spot = some second
      · exact Option.some.inj (atFirst.symm.trans atSecond)
      · exact absurd (was_idle atSecond right) (((here first atFirst).2 helper left).2 second atSecond)
    · by_cases atSecond : spot = some second
      · exact absurd (was_idle atFirst left) (((here second atSecond).2 helper right).2 first atFirst)
      · exact staffed.apart first second helper (was_idle atFirst left) (was_idle atSecond right)
  case named => exact named
  case nameable => exact nameable

/-- Where slots are as they were and the threads at rest still are, so are the helpers. -/
theorem Staffed.of_stations (staffed : system.Staffed)
    (stations : ∀ lease, after.station lease = system.station lease)
    (rested : ∀ helper, helper < system.threads.length ∧ (system.thread helper).activations = [] →
      helper < after.threads.length ∧ (after.thread helper).activations = [])
    (named : ∀ pool, Pool.isStem (after.pool pool).nameStem = true)
    (nameable : after.globalPool = none → Pool.isStem after.setting.read.1.nameStem = true) : after.Staffed :=
  staffed.of_change none (fun lease _ => .inl (stations lease)) (fun _ here => absurd here.symm (Option.some_ne_none _))
    (fun lease helper _ idle => rested helper (staffed.rested lease helper idle)) named nameable

/-- A step that changes scopes and what is shared, but nothing that runs. -/
theorem minds_of_parts (ready : system.Ready thread) (threads : after.threads = system.threads)
    (works : after.works = system.works) (pools : after.pools = system.pools)
    (nameable : after.globalPool = none → Pool.isStem after.setting.read.1.nameStem = true) :
    system.Minds thread after := by
  have reads := thread_of_threads threads
  constructor
  case ready =>
    constructor
    · refine ready.staffed.of_stations (station_of_pools pools) ?_ ?_ nameable
      · intro helper rested
        rwa [threads, reads]
      · intro pool
        rw [System.pool, pools]
        exact ready.staffed.named pool
    · rw [reads]
      exact ready.active
  case works => exact Nat.le_of_eq (congrArg List.length works.symm)
  case recorded => exact fun work _ => work_of_works works work
  case others => exact fun other _ _ => reads other
  case chain => rw [reads]
  case saved => rw [activation, activation, reads]
  case slots => exact fun lease _ => .inl (station_of_pools pools lease)

theorem minds_of_same (ready : system.Ready thread) (threads : after.threads = system.threads)
    (works : after.works = system.works) (pools : after.pools = system.pools)
    (globalPool : after.globalPool = system.globalPool) (setting : after.setting = system.setting) :
    system.Minds thread after :=
  minds_of_parts ready threads works pools (by rw [globalPool, setting]; exact ready.staffed.nameable)

theorem minds_modifyScope (ready : system.Ready thread) (scope : ScopeId) (change : Scope → Scope) :
    system.Minds thread (system.modifyScope scope change) :=
  minds_of_same ready rfl rfl rfl rfl rfl

/-! ## Steps on the thread itself -/

theorem thread_modifyThread_self (active : (system.thread thread).activations ≠ []) (change : Thread → Thread) :
    (system.modifyThread thread change).thread thread = change (system.thread thread) := by
  rw [thread_modifyThread, if_pos ⟨rfl, lt_of_activations active⟩]

theorem thread_modifyThread_of_ne {other : ThreadId} (ne : other ≠ thread) (change : Thread → Thread) :
    (system.modifyThread thread change).thread other = system.thread other := by
  rw [thread_modifyThread, if_neg fun both => ne both.1]

/-- A thread changes its stack and its innermost activation, but not what it has set aside. -/
theorem minds_modifyThread (ready : system.Ready thread) {change : Thread → Thread}
    {inner : Activation → Activation}
    (activations : ∀ t, (change t).activations = t.activations.modifyHead inner)
    (saved : ∀ activation, (inner activation).saved = activation.saved) :
    system.Minds thread (system.modifyThread thread change) := by
  have changed := thread_modifyThread_self ready.active change
  obtain ⟨top, outer, chain⟩ := List.exists_cons_of_ne_nil ready.active
  constructor
  case ready =>
    constructor
    · refine ready.staffed.of_stations (fun _ => rfl) ?_ ready.staffed.named ready.staffed.nameable
      intro helper rested
      refine ⟨Nat.lt_of_lt_of_eq rested.1 (List.length_modify ..).symm, ?_⟩
      rw [thread_modifyThread]
      split_ifs
      · rw [activations, rested.2]
        rfl
      · exact rested.2
    · rw [changed, activations, chain]
      exact List.cons_ne_nil _ _
  case works => exact Nat.le_refl _
  case recorded => exact fun _ _ => rfl
  case others => exact fun other ne _ => thread_modifyThread_of_ne ne change
  case chain =>
    rw [changed, activations, chain]
    rfl
  case saved =>
    rw [activation, activation, changed, activations, chain]
    exact saved top
  case slots => exact fun _ _ => .inl rfl

theorem minds_modifyActivation (ready : system.Ready thread) {inner : Activation → Activation}
    (saved : ∀ activation, (inner activation).saved = activation.saved) :
    system.Minds thread (system.modifyActivation thread inner) :=
  minds_modifyThread ready (fun _ => rfl) saved

theorem minds_modifyStack (ready : system.Ready thread) (change : Stack → Stack) :
    system.Minds thread (system.modifyThread thread fun t => { t with stack := change t.stack }) := by
  have same (activations : List Activation) : activations = activations.modifyHead id := by
    rw [List.modifyHead_id]
    rfl
  exact minds_modifyThread ready (fun t => same t.activations) fun _ => rfl

/-! ## Making what is not there yet -/

/-- A new pool has free slots without helpers, which is how what is no slot reads. -/
theorem station_addPool (capacity : Nat) (config : Setting.Config) (stackBound : Option Nat) (lease : Lease) :
    (system.addPool (Pool.ofConfig capacity config stackBound)).2.station lease = system.station lease := by
  rw [station, station, pool_addPool]
  split_ifs with last
  · rw [last, pool_of_not_lt (Nat.lt_irrefl _), Pool.slot, Pool.ofConfig, List.getElem?_replicate]
    split_ifs
    · rfl
    · rfl
  · rfl

/-- Once the setting has been read, it is read again as it was. -/
theorem read_read (setting : Setting.State) : setting.read.2.read = setting.read := by
  cases fixed : setting.fixed with
  | none => simp only [Setting.State.read, fixed]
  | some config => simp only [Setting.State.read, fixed]

theorem minds_readSetting (ready : system.Ready thread) : system.Minds thread system.readSetting.2 := by
  refine minds_of_parts ready rfl rfl rfl fun unmade => ?_
  change Pool.isStem system.setting.read.2.read.1.nameStem = true
  rw [read_read]
  exact ready.staffed.nameable unmade

/-- A pool named by the setting is made, and becomes the global one. -/
theorem minds_getGlobalPool (ready : system.Ready thread) : system.Minds thread system.getGlobalPool.2 := by
  rw [getGlobalPool]
  cases made : system.globalPool with
  | some pool => exact .refl ready
  | none =>
    have read := minds_readSetting ready
    refine read.trans ?_
    have stem := ready.staffed.nameable made
    constructor
    case ready =>
      constructor
      · refine read.ready.staffed.of_stations (fun lease => station_addPool _ _ _ lease) (fun _ rested => rested) ?_ ?_
        · intro pool
          change Pool.isStem
            ((system.readSetting.2.addPool (Pool.ofConfig _ system.readSetting.1 _)).2.pool pool).nameStem = _
          rw [pool_addPool]
          split_ifs
          · exact stem
          · exact read.ready.staffed.named pool
        · intro unmade
          exact absurd unmade (Option.some_ne_none _)
      · exact read.ready.active
    case works => exact Nat.le_refl _
    case recorded => exact fun _ _ => rfl
    case others => exact fun _ _ _ => rfl
    case chain => rfl
    case saved => rfl
    case slots => exact fun lease _ => .inl (station_addPool _ _ _ lease)

theorem minds_newRoot (ready : system.Ready thread) (pool : PoolId) (concurrency : Nat) :
    system.Minds thread (system.newRoot pool concurrency).2 :=
  minds_of_same ready rfl rfl rfl rfl rfl

theorem minds_getStandardRoot (ready : system.Ready thread) : system.Minds thread system.getStandardRoot.2 := by
  rw [getStandardRoot]
  split
  · exact .refl ready
  · have read := minds_readSetting ready
    have made := read.trans (minds_getGlobalPool read.ready)
    have rooted := made.trans (minds_newRoot made.ready system.readSetting.2.getGlobalPool.1
      system.setting.concurrency.1)
    exact rooted.trans (minds_of_same rooted.ready rfl rfl rfl rfl rfl)

theorem minds_rootFrom (ready : system.Ready thread) (source : RootSource) :
    system.Minds thread (system.rootFrom source).2 := by
  cases source with
  | scope root => exact .refl ready
  | fresh pool concurrency => exact minds_newRoot ready pool concurrency
  | standard => exact minds_getStandardRoot ready

theorem minds_enclosing (ready : system.Ready thread) : system.Minds thread (system.enclosing thread).2 := by
  rw [enclosing]
  split
  · exact .refl ready
  · rw [supplyRoot]
    split
    · rename_i id factory _
      have counted : system.Minds thread (system.countLookup id) := minds_of_same ready rfl rfl rfl rfl rfl
      exact counted.trans (minds_rootFrom counted.ready factory.source)
    · exact minds_getStandardRoot ready

/-! ## Dismissing helpers -/

/-- Pools are dropped: their channels are cut, and helpers that were idle lose their stacks. -/
structure Dismisses (system after : System) : Prop where
  kept : after = { system with pools := after.pools, threads := after.threads }
  stations : ∀ lease, after.station lease = system.station lease ∨ after.station lease = (system.station lease).cut
  named : ∀ pool, (after.pool pool).nameStem = (system.pool pool).nameStem
  length : after.threads.length = system.threads.length
  activations : ∀ other, (after.thread other).activations = (system.thread other).activations
  /-- Threads that are no idle helpers are as they were. -/
  others : ∀ other, (∀ lease, (system.station lease).helper ≠ .idle other) →
    after.thread other = system.thread other

namespace Dismisses

theorem refl (system : System) : system.Dismisses system where
  kept := rfl
  stations _ := .inl rfl
  named _ := rfl
  length := rfl
  activations _ := rfl
  others _ _ := rfl

theorem trans (first : system.Dismisses middle) (second : middle.Dismisses after) : system.Dismisses after where
  kept := by
    rw [second.kept, first.kept]
  stations lease := by
    exact Slot.same_or_cut_trans (first.stations lease) (second.stations lease)
  named pool := (second.named pool).trans (first.named pool)
  length := second.length.trans first.length
  activations other := (second.activations other).trans (first.activations other)
  others other apart := by
    refine (second.others other fun lease idle => ?_).trans (first.others other apart)
    rcases first.stations lease with same | cut
    · exact apart lease (same ▸ idle)
    · exact Slot.cut_ne_idle (cut ▸ idle)

end Dismisses

private theorem foldl_retire (helpers : List ThreadId) (system : System) :
    helpers.foldl retire system = { system with threads := (helpers.foldl retire system).threads } ∧
      (helpers.foldl retire system).threads.length = system.threads.length ∧
      (∀ other, ((helpers.foldl retire system).thread other).activations = (system.thread other).activations) ∧
      ∀ other, other ∉ helpers → (helpers.foldl retire system).thread other = system.thread other := by
  induction helpers generalizing system with
  | nil => exact ⟨rfl, rfl, fun _ => rfl, fun _ _ => rfl⟩
  | cons helper rest ih =>
    obtain ⟨kept, length, activations, others⟩ := ih (system.retire helper)
    refine ⟨kept, length.trans (List.length_modify ..), fun other => (activations other).trans ?_, ?_⟩
    · rw [retire, setStack, thread_modifyThread]
      split_ifs
      · rfl
      · rfl
    · intro other missing
      rw [List.mem_cons, not_or] at missing
      rw [List.foldl_cons, others other missing.2, retire, setStack, thread_modifyThread_of_ne missing.1]

theorem dismisses_shutdown {pool : PoolId} (bound : pool < system.pools.length) :
    system.Dismisses (system.shutdown pool) := by
  obtain ⟨helpers, idle, shape⟩ : ∃ helpers : List ThreadId,
      (∀ helper ∈ helpers, ∃ lease, (system.station lease).helper = .idle helper) ∧
      system.shutdown pool = helpers.foldl retire (system.modifyPool pool Pool.shutdown) := by
    refine ⟨_, ?_, rfl⟩
    intro helper found
    obtain ⟨slot, present, idle⟩ := List.mem_filterMap.mp found
    obtain ⟨index, there⟩ := List.mem_iff_getElem?.mp present
    refine ⟨⟨pool, index⟩, ?_⟩
    rw [station, Pool.slot, there, Option.getD_some]
    split at idle
    next thread here => rw [here, Option.some.inj idle]
    next => exact absurd idle (Option.some_ne_none _).symm
    next => exact absurd idle (Option.some_ne_none _).symm
  obtain ⟨kept, length, activations, others⟩ := foldl_retire helpers (system.modifyPool pool Pool.shutdown)
  rw [← shape] at kept length activations others
  have pools : (system.shutdown pool).pools = (system.modifyPool pool Pool.shutdown).pools := by rw [kept]
  constructor
  case kept =>
    rw [kept]
    rfl
  case stations =>
    intro lease
    rw [station_of_pools pools, station_modifyPool_shutdown bound]
    split_ifs
    · exact .inr rfl
    · exact .inl rfl
  case named =>
    intro other
    rw [System.pool, pools]
    change ((system.modifyPool pool Pool.shutdown).pool other).nameStem = _
    rw [pool_modifyPool]
    split_ifs
    · rfl
    · rfl
  case length => exact length
  case activations => exact activations
  case others =>
    intro other apart
    refine others other fun listed => ?_
    obtain ⟨lease, here⟩ := idle other listed
    exact apart lease here

theorem dismisses_dismiss (system : System) : system.Dismisses system.dismiss := by
  have all (count : Nat) (system : System) : system.Dismisses (system.dismissUpTo count) := by
    induction count generalizing system with
    | zero => exact .refl system
    | succ count ih =>
      rw [dismissUpTo]
      split
      next => exact .refl system
      next pool found =>
        have bound := List.mem_range.mp (List.mem_of_find?_eq_some found)
        exact (dismisses_shutdown bound).trans (ih _)
  exact all _ system

/-- Helpers at rest may go. -/
theorem Dismisses.minds (dismisses : system.Dismisses after) (ready : system.Ready thread) :
    system.Minds thread after := by
  have others (other : ThreadId) (active : (system.thread other).activations ≠ []) :
      after.thread other = system.thread other :=
    dismisses.others other fun lease idle => active (ready.staffed.rested lease other idle).2
  have works : after.works = system.works := by rw [dismisses.kept]
  constructor
  case ready =>
    constructor
    · refine ready.staffed.of_change none (fun lease _ => dismisses.stations lease) ?_ ?_ ?_ ?_
      · exact fun _ here => absurd here.symm (Option.some_ne_none _)
      · intro lease helper _ idle
        rw [dismisses.length, dismisses.activations]
        exact ready.staffed.rested lease helper idle
      · intro pool
        rw [dismisses.named]
        exact ready.staffed.named pool
      · rw [dismisses.kept]
        exact ready.staffed.nameable
    · rw [dismisses.activations]
      exact ready.active
  case works => exact Nat.le_of_eq (congrArg List.length works.symm)
  case recorded => exact fun work _ => work_of_works works work
  case others => exact fun other _ active => others other active
  case chain => rw [dismisses.activations]
  case saved => rw [activation, activation, dismisses.activations]
  case slots => exact fun lease _ => dismisses.stations lease

end System

end ScopedWork
