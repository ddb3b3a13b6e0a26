import ScopedWork.Proofs.Outlook
import ScopedWork.Proofs.Readiness

/-! # Where logics run

A logic that is submitted to a process at rest is begun at once: by its submitter, or by the helper of a
slot that was free, which has nothing else to run. Either way it finds its submitter's stack, and nothing
of its own.

When the logic ends, its thread goes back to what it ran before. The slot is free again and its helper at
rest, so the submitter finds everything as it was, but for what has been recorded in the scopes.
-/

namespace ScopedWork

/-- A slot is leased and nothing waits in its channel; its helper, if any, is known. -/
structure Slot.Occupied (slot : Slot WorkId) (helper : Helper WorkId) : Prop where
  leased : slot.leased = true
  empty : slot.waiting = none
  helper : slot.helper = helper

def Work.held (work : Work) : Option Lease :=
  if work.leased then work.station else none

theorem Work.station_of_held {work : Work} {lease : Lease} (held : work.held = some lease) :
    work.station = some lease := by
  rw [Work.held] at held
  split_ifs at held
  exact held

namespace System

variable {system after : System} {thread worker : ThreadId} {lease : Lease} {scope : ScopeId}

/-! ## Parts of a changed process -/

theorem thread_addThread (added : Thread) (other : ThreadId) :
    (system.addThread added).2.thread other = if other = system.threads.length then added else system.thread other :=
  read_append system.threads added other

theorem thread_of_not_lt (beyond : ¬ thread < system.threads.length) : system.thread thread = default := by
  rw [System.thread, List.getElem?_eq_none (Nat.le_of_not_lt beyond), Option.getD_none]

theorem nameStem_modifyPool {id : PoolId} {change : Pool WorkId → Pool WorkId}
    (kept : (change (system.pool id)).nameStem = (system.pool id).nameStem) (pool : PoolId) :
    ((system.modifyPool id change).pool pool).nameStem = (system.pool pool).nameStem := by
  rw [pool_modifyPool]
  split_ifs with here
  · rw [here.1, kept]
  · rfl

/-! ## Acquiring -/

/-- A lease of a slot has been acquired. Its channel is open and empty, and its helper, if it is there,
is idle. -/
structure Acquires (lease : Lease) (system after : System) : Prop where
  kept : after = { system with pools := after.pools, threads := after.threads }
  there : after.HasSlot lease
  free : (system.station lease).leased = false
  elsewhere : ∀ other, other ≠ lease → after.station other = system.station other
  leased : (after.station lease).leased = true
  connected : (after.station lease).sender = true
  empty : (after.station lease).waiting = none
  calm : ∀ helper work, (after.station lease).helper ≠ .busy helper work
  idle : ∀ helper, (after.station lease).helper = .idle helper → helper < after.threads.length ∧
    (system.thread helper).activations = [] ∧ ∀ other, other ≠ lease →
      (system.station other).helper ≠ .idle helper
  named : ∀ pool, (after.pool pool).nameStem = (system.pool pool).nameStem
  grown : system.threads.length ≤ after.threads.length
  same : ∀ other, other < system.threads.length → after.thread other = system.thread other
  activations : ∀ other, (after.thread other).activations = (system.thread other).activations

private theorem acquires_warm (staffed : system.Staffed) (there : system.HasSlot lease)
    (free : (system.station lease).leased = false) (warm : (system.station lease).sender = true) :
    system.Acquires lease (system.modifyPool lease.pool fun _ => (system.pool lease.pool).lease lease.slot) := by
  let change : Pool WorkId → Pool WorkId := fun _ => (system.pool lease.pool).lease lease.slot
  let slotChange : Slot WorkId → Slot WorkId := ({ · with leased := true })
  have stations : (system.modifyPool lease.pool change).station =
      Function.update system.station lease (slotChange (system.station lease)) :=
    station_modifyPool_slot (.inl there) rfl
  have here : (system.modifyPool lease.pool change).station lease = { system.station lease with leased := true } := by
    rw [stations, Function.update_self]
  obtain ⟨empty, calm⟩ := staffed.free lease free
  constructor
  case kept => rfl
  case there =>
    refine ⟨Nat.lt_of_lt_of_eq there.1 (List.length_modify ..).symm, ?_⟩
    rw [pool_modifyPool, if_pos ⟨rfl, there.1⟩]
    exact Nat.lt_of_lt_of_eq there.2 (List.length_modify ..).symm
  case free => exact free
  case elsewhere =>
    intro other ne
    rw [stations, Function.update_of_ne ne]
  case leased => rw [here]
  case connected => rw [here, warm]
  case empty => rw [here, empty]
  case calm =>
    rw [here]
    exact calm
  case idle =>
    intro helper idle
    rw [here] at idle
    obtain ⟨bound, rested⟩ := staffed.rested lease helper idle
    exact ⟨bound, rested, fun other ne again => ne (staffed.apart other lease helper again idle)⟩
  case named => exact nameStem_modifyPool rfl
  case grown => exact Nat.le_refl _
  case same => exact fun _ _ => rfl
  case activations => exact fun _ => rfl

private theorem acquires_cold (staffed : system.Staffed) (there : system.HasSlot lease)
    (free : (system.station lease).leased = false) (name : String) :
    system.Acquires lease ((system.modifyPool lease.pool fun _ =>
      ((system.pool lease.pool).lease lease.slot).spawn lease.slot system.threads.length).addThread { name }).2 := by
  let change : Pool WorkId → Pool WorkId := fun _ =>
    ((system.pool lease.pool).lease lease.slot).spawn lease.slot system.threads.length
  let slotChange : Slot WorkId → Slot WorkId :=
    ({ · with sender := true, helper := .idle system.threads.length }) ∘ ({ · with leased := true })
  have shows : (change (system.pool lease.pool)).slots = (system.pool lease.pool).slots.modify lease.slot slotChange :=
    List.modify_modify_eq ..
  have stations : (system.modifyPool lease.pool change).station =
      Function.update system.station lease (slotChange (system.station lease)) :=
    station_modifyPool_slot (.inl there) shows
  have here : ((system.modifyPool lease.pool change).addThread { name }).2.station lease =
      slotChange (system.station lease) :=
    (congrFun stations lease).trans (Function.update_self ..)
  have reads (other : ThreadId) : ((system.modifyPool lease.pool change).addThread { name }).2.thread other =
      if other = system.threads.length then { name } else system.thread other :=
    thread_addThread { name } other
  have length : ((system.modifyPool lease.pool change).addThread { name }).2.threads.length =
    system.threads.length + 1 :=
    List.length_append
  have unused : (system.thread system.threads.length).activations = [] := by
    rw [thread_of_not_lt (Nat.lt_irrefl _)]
    rfl
  constructor
  case kept => rfl
  case there =>
    refine ⟨Nat.lt_of_lt_of_eq there.1 (List.length_modify ..).symm, ?_⟩
    change lease.slot < ((system.modifyPool lease.pool change).pool lease.pool).slots.length
    rw [pool_modifyPool, if_pos ⟨rfl, there.1⟩, shows, List.length_modify]
    exact there.2
  case free => exact free
  case elsewhere =>
    intro other ne
    exact (congrFun stations other).trans (Function.update_of_ne ne ..)
  case leased =>
    rw [here]
    rfl
  case connected =>
    rw [here]
    rfl
  case empty =>
    rw [here]
    exact (staffed.free lease free).1
  case calm =>
    rw [here]
    simp only [slotChange, Function.comp_apply, ne_eq, reduceCtorEq, not_false_eq_true, implies_true]
  case idle =>
    intro helper idle
    rw [here] at idle
    obtain rfl : system.threads.length = helper := Helper.idle.inj idle
    refine ⟨Nat.lt_of_lt_of_eq (Nat.lt_succ_self _) length.symm, unused, fun other _ again => ?_⟩
    exact Nat.lt_irrefl _ (staffed.rested other _ again).1
  case named => exact nameStem_modifyPool rfl
  case grown => exact length ▸ Nat.le_succ _
  case same =>
    intro other bound
    rw [reads, if_neg (Nat.ne_of_lt bound)]
  case activations =>
    intro other
    rw [reads]
    split_ifs with last
    · rw [last, unused]
    · rfl

/-- An attempt to acquire a lease yields none and changes nothing, or it yields one. It cannot panic
where helpers have names. -/
theorem acquire_acquires (staffed : system.Staffed) (pool : PoolId) (limit : Nat) :
    system.acquire pool limit = (.ok none, system) ∨
      ∃ lease after, system.acquire pool limit = (.ok (some lease), after) ∧ system.Acquires lease after := by
  rcases acquire_shapes system pool limit with missed | ⟨payload, index, panicked, -⟩
    | ⟨lease, -, there, free, had⟩
  · exact .inl missed
  · rw [Pool.namePanic?_helperName (staffed.named pool)] at panicked
    exact absurd panicked.symm (Option.some_ne_none _)
  · rcases had with ⟨warm, had⟩ | ⟨-, name, had⟩
    · exact .inr ⟨lease, _, had, acquires_warm staffed there free warm⟩
    · exact .inr ⟨lease, _, had, acquires_cold staffed there free name⟩

/-! ## Beginning -/

/-- Where a logic has begun: the thread that runs it, and the slot that it holds, if it holds one. -/
inductive Site (thread : ThreadId) (number : WorkId) (system : System) : (worker : ThreadId) → Work → Prop
  /-- On its submitter's thread, for want of a slot. -/
  | inline {work : Work} (placed : work.placement = .inline) (bare : work.held = none) :
    Site thread number system thread work
  /-- On its submitter's thread, for want of a helper. -/
  | returned {work : Work} {lease : Lease} (placed : work.placement = .returned)
    (holds : work.held = some lease) (slot : (system.station lease).Occupied .absent) :
    Site thread number system thread work
  | helper {work : Work} {lease : Lease} {helper : ThreadId} (away : helper ≠ thread)
    (placed : work.placement = .helper helper) (holds : work.held = some lease)
    (slot : (system.station lease).Occupied (.busy helper number)) :
    Site thread number system helper work

/-- A logic of a scope has been submitted by a thread and begun by a worker, which sees the submitter's
stack. What runs elsewhere is as it was. -/
structure Begun (thread : ThreadId) (scope : ScopeId) (system : System) (worker : ThreadId) (work : Work)
    (after : System) : Prop where
  site : after.Site thread system.works.length worker work
  kept : after = { system with
    scopes := after.scopes, pools := after.pools, works := after.works, threads := after.threads }
  outlines : after.scopes.map Scope.outline = (system.scopes.modify scope Scope.countDispatched).map Scope.outline
  works : after.works = system.works ++ [work]
  kind : work.kind = .logic scope
  ready : after.Ready worker
  stack : after.stack worker = system.stack thread
  /-- What the worker has set aside, if it is the submitter, is the stack that it had. -/
  chain : ∃ saved, (after.thread worker).activations = begun system.works.length saved ::
    (system.thread worker).activations ∧
    (worker = thread → saved.getLast?.getD (system.stack thread) = system.stack thread)
  asleep : worker ≠ thread → (system.thread worker).activations = []
  others : ∀ other, other ≠ worker → (system.thread other).activations ≠ [] →
    after.thread other = system.thread other
  slots : ∀ lease, (system.station lease).leased = true → after.station lease = system.station lease
  /-- Nobody held the slot that the logic holds. -/
  free : ∀ lease, work.held = some lease → (system.station lease).leased = false

theorem beginWork_eq (system : System) (thread : ThreadId) (work : WorkId) (snapshot : Option Stack) :
    system.beginWork thread work snapshot =
      (system.modifyWork work fun w => { w with
        phase := .running, snapshot := none, runs := thread :: w.runs }).modifyThread thread fun t => { t with
          stack := snapshot.getD t.stack
          activations := begun work (snapshot.elim [] fun _ => [system.stack thread]) :: t.activations } := by
  cases snapshot with
  | none => rfl
  | some stack =>
    simp only [beginWork, setStack, modifyThread, List.modify_modify_eq]
    rfl

/-- What a thread begins on top of what it runs, in a process that has been readied for it. -/
private theorem Begun.of_threads {work : Work} {snapshot : Option Stack} {acquired : System}
    (ready : system.Ready thread) (site : after.Site thread system.works.length worker work)
    (kept : after = { system with
      scopes := after.scopes, pools := after.pools, works := after.works, threads := after.threads })
    (outlines : after.scopes.map Scope.outline = (system.scopes.modify scope Scope.countDispatched).map Scope.outline)
    (works : after.works = system.works ++ [work]) (kind : work.kind = .logic scope)
    (threads : after.threads = (acquired.beginWork worker system.works.length snapshot).threads)
    (bound : worker < acquired.threads.length) (grown : system.threads.length ≤ acquired.threads.length)
    (same : ∀ other, other < system.threads.length → acquired.thread other = system.thread other)
    (activations : ∀ other, (acquired.thread other).activations = (system.thread other).activations)
    (sees : snapshot.getD (acquired.stack worker) = system.stack thread)
    (asleep : worker ≠ thread → (system.thread worker).activations = [])
    (elsewhere : ∀ lease, work.held ≠ some lease → after.station lease = system.station lease)
    (here : ∀ lease, work.held = some lease → (system.station lease).leased = false ∧
      (after.station lease).leased = true ∧
      ∀ helper, (after.station lease).helper ≠ .idle helper)
    (away : ∀ lease helper, work.held ≠ some lease → (system.station lease).helper = .idle helper →
      helper ≠ worker)
    (named : ∀ pool, (after.pool pool).nameStem = (system.pool pool).nameStem) :
    system.Begun thread scope worker work after := by
  let saved : List Stack := snapshot.elim [] fun _ => [acquired.stack worker]
  have reads (other : ThreadId) : after.thread other = if other = worker then
      { acquired.thread worker with
        stack := snapshot.getD (acquired.stack worker)
        activations := begun system.works.length saved :: (acquired.thread worker).activations }
      else acquired.thread other := by
    rw [thread_of_threads threads, beginWork_eq, thread_modifyThread]
    by_cases itself : other = worker
    · subst itself
      rw [if_pos ⟨rfl, bound⟩, if_pos rfl]
      rfl
    · rw [if_neg fun both => itself both.1, if_neg itself]
      rfl
  have self := (reads worker).trans (if_pos rfl)
  have off {other : ThreadId} (ne : other ≠ worker) := (reads other).trans (if_neg ne)
  have length : after.threads.length = acquired.threads.length := by
    rw [threads, beginWork_eq]
    exact List.length_modify ..
  constructor
  case site => exact site
  case kept => exact kept
  case outlines => exact outlines
  case works => exact works
  case kind => exact kind
  case ready =>
    constructor
    · refine ready.staffed.of_change work.held (fun lease off => .inl (elsewhere lease off)) ?_ ?_ ?_ ?_
      · intro lease spotted
        obtain ⟨-, leased, awake⟩ := here lease spotted
        exact ⟨fun free => absurd (leased.symm.trans free) (by decide),
          fun helper idle => absurd idle (awake helper)⟩
      · intro lease helper unspotted idle
        obtain ⟨low, rested⟩ := ready.staffed.rested lease helper idle
        rw [off (away lease helper unspotted idle), activations, length]
        exact ⟨Nat.lt_of_lt_of_le low grown, rested⟩
      · intro pool
        rw [named]
        exact ready.staffed.named pool
      · rw [kept]
        exact ready.staffed.nameable
    · rw [self]
      exact List.cons_ne_nil _ _
  case stack => rw [System.stack, self, sees]
  case chain =>
    refine ⟨saved, by rw [self, activations], fun itself => ?_⟩
    subst itself
    have unchanged : acquired.stack worker = system.stack worker := by
      rw [System.stack, same worker (lt_of_activations ready.active), System.stack]
    cases snapshot with
    | none => rfl
    | some stack => exact unchanged
  case asleep => exact asleep
  case others =>
    intro other ne active
    rw [off ne, same other (lt_of_activations active)]
  case slots =>
    intro lease leased
    exact elsewhere lease fun spotted => absurd ((here lease spotted).1.symm.trans leased) (by decide)
  case free => exact fun lease held => (here lease held).1

/-- A change of a scope that its outline does not show. -/
theorem outlines_unseen {change : Scope → Scope} (unseen : ∀ record, (change record).outline = record.outline)
    (scopes : List Scope) (scope : ScopeId) :
    (scopes.modify scope change).map Scope.outline = scopes.map Scope.outline :=
  (map_modify_of_comm unseen scopes scope).trans (List.modify_id scope _)

/-- A logic as it is on record once it has begun. -/
def begunWork (system : System) (thread : ThreadId) (scope : ScopeId) (station : Option Lease) (worker : ThreadId)
    (placement : Placement) : Work :=
  { kind := .logic scope, submitter := thread, within := (system.activation thread).within, placement, station
    leased := station.isSome, phase := .running, runs := [worker] }

/-- A logic that finds no slot is begun by its submitter. -/
private theorem begun_inline (ready : system.Ready thread) (scope : ScopeId) :
    system.Begun thread scope thread (system.begunWork thread scope none thread .inline)
      ((((system.modifyScope scope Scope.countDispatched).modifyScope scope Scope.countInlined).addWork
        { system.begunWork thread scope none thread .inline with phase := .waiting, runs := [] }).2.beginWork thread
          system.works.length none) := by
  refine @Begun.of_threads _ _ _ _ _ _ none system ready ?_ ?_ ?_ ?_ rfl ?_ (lt_of_activations ready.active)
    (Nat.le_refl _) (fun _ _ => rfl) (fun _ => rfl) rfl (absurd rfl) ?_ ?_ ?_ ?_
  · exact .inline rfl rfl
  · rfl
  · exact @outlines_unseen Scope.countInlined (fun _ => rfl) _ scope
  · exact modify_append_last ..
  · rfl
  · exact fun _ _ => rfl
  · exact fun _ here => absurd here.symm (Option.some_ne_none _)
  · rintro lease helper - idle rfl
    exact ready.active (ready.staffed.rested lease helper idle).2
  · exact fun _ => rfl

/-- A logic that has been sent through a lease is begun by a worker, which is the helper of the slot, or
the submitter if there is none. -/
private theorem begun_sent (ready : system.Ready thread) {acquired : System} {placement : Placement}
    {slotChange : Slot WorkId → Slot WorkId}
    (acquires : (system.modifyScope scope Scope.countDispatched).Acquires lease acquired)
    (bound : worker < acquired.threads.length) (asleep : worker ≠ thread → (system.thread worker).activations = [])
    (away : ∀ other, other ≠ lease → (system.station other).helper ≠ .idle worker)
    (leased : (slotChange (acquired.station lease)).leased = true)
    (awake : ∀ helper, (slotChange (acquired.station lease)).helper ≠ .idle helper)
    (site : ∀ after : System, after.station lease = slotChange (acquired.station lease) →
      after.Site thread system.works.length worker (system.begunWork thread scope (some lease) worker placement)) :
    system.Begun thread scope worker (system.begunWork thread scope (some lease) worker placement)
      (((((acquired.modifyScope scope Scope.countPooled).addWork
        { system.begunWork thread scope (some lease) thread .queued with
          phase := .waiting, snapshot := some (system.stack thread), runs := [] }).2.modifyPool lease.pool fun _ =>
            (acquired.pool lease.pool).modifySlot lease.slot slotChange).beginWork worker system.works.length
              (some (system.stack thread))).modifyWork system.works.length ({ · with placement })) := by
  obtain ⟨pools, threads, rfl⟩ : ∃ pools threads,
      acquired = { system.modifyScope scope Scope.countDispatched with pools, threads } :=
    ⟨_, _, acquires.kept⟩
  let acquired : System := { system.modifyScope scope Scope.countDispatched with pools, threads }
  let sent := acquired.modifyPool lease.pool fun _ => (acquired.pool lease.pool).modifySlot lease.slot slotChange
  have stations : sent.station = Function.update acquired.station lease (slotChange (acquired.station lease)) :=
    station_modifyPool_slot (.inl acquires.there) rfl
  have here : sent.station lease = slotChange (acquired.station lease) := by
    rw [stations, Function.update_self]
  refine @Begun.of_threads _ _ _ _ _ _ (some (system.stack thread)) acquired ready (site _ here)
    ?_ ?_ ?_ rfl ?_ bound acquires.grown acquires.same acquires.activations rfl asleep ?_ ?_ ?_ ?_
  · rfl
  · exact @outlines_unseen Scope.countPooled (fun _ => rfl) _ scope
  · change ((system.works ++ [_]).modify system.works.length _).modify system.works.length _ = _
    rw [modify_append_last, modify_append_last]
    rfl
  · rfl
  · intro other off
    have ne : other ≠ lease := fun same => off (congrArg some same.symm)
    change sent.station other = _
    rw [stations, Function.update_of_ne ne]
    exact acquires.elsewhere other ne
  · rintro other same
    obtain rfl := Option.some.inj same
    change _ ∧ (sent.station lease).leased = true ∧ ∀ helper, (sent.station lease).helper ≠ .idle helper
    rw [here]
    exact ⟨acquires.free, leased, awake⟩
  · rintro other helper off idle rfl
    exact away other (fun same => off (congrArg some same.symm)) idle
  · exact fun pool => (@nameStem_modifyPool acquired lease.pool _ rfl pool).trans (acquires.named pool)

/-- A logic that is submitted to a process at rest is begun at once. -/
theorem submit_begun (ready : system.Ready thread) (scope : ScopeId) :
    ∃ worker work after, system.submit thread scope = (.ok (system.works.length, work.placement), after) ∧
      system.Begun thread scope worker work after := by
  let counted := system.modifyScope scope Scope.countDispatched
  have staffed : counted.Staffed := (minds_modifyScope ready scope Scope.countDispatched).ready.staffed
  have awake (lease : Lease) : (system.station lease).helper ≠ .idle thread :=
    fun idle => ready.active (ready.staffed.rested lease thread idle).2
  rcases acquire_acquires staffed (system.scope scope).pool (system.scope scope).concurrency with
    missed | ⟨lease, acquired, had, acquires⟩
  · refine ⟨thread, _, _, ?_, begun_inline ready scope⟩
    rw [submit]
    simp only [counted] at missed
    simp only [missed]
    rfl
  · let given : Work := { system.begunWork thread scope (some lease) thread .queued with
      phase := .waiting, snapshot := some (system.stack thread), runs := [] }
    let placed := ((acquired.modifyScope scope Scope.countPooled).addWork given).2
    have works : acquired.works.length = system.works.length := by
      rw [acquires.kept]
      rfl
    have submitted : system.submit thread scope =
        (.ok (system.works.length, (placed.handOver thread lease system.works.length (some (system.stack thread))).1),
          (placed.handOver thread lease system.works.length (some (system.stack thread))).2) := by
      rw [submit]
      simp only [counted] at had
      simp only [had, ← works]
      rfl
    have connected : ((acquired.pool lease.pool).slot lease.slot).sender = true := acquires.connected
    cases found : ((acquired.pool lease.pool).slot lease.slot).helper with
    | absent =>
      have handed : (placed.pool lease.pool).dispatch lease.slot system.works.length =
          (.returned, (acquired.pool lease.pool).modifySlot lease.slot ({ · with sender := false })) := by
        change (acquired.pool lease.pool).dispatch _ _ = _
        simp only [Pool.dispatch, connected, found, ↓reduceIte]
      refine ⟨thread, system.begunWork thread scope (some lease) thread .returned, _, ?_,
        @begun_sent system thread thread lease scope ready acquired .returned ({ · with sender := false }) acquires ?_
          (absurd rfl) (fun other _ => awake other) acquires.leased ?_ ?_⟩
      · rw [submitted]
        simp only [handOver, handed]
        rfl
      · exact Nat.lt_of_lt_of_le (lt_of_activations ready.active) acquires.grown
      · intro helper idle
        exact absurd (found.symm.trans idle) (by simp only [reduceCtorEq, not_false_eq_true])
      · intro after here
        refine .returned rfl rfl ?_
        rw [here]
        exact ⟨acquires.leased, acquires.empty, found⟩
    | idle helper =>
      have handed : (placed.pool lease.pool).dispatch lease.slot system.works.length =
          (.begun helper, (acquired.pool lease.pool).modifySlot lease.slot
            ({ · with helper := .busy helper system.works.length })) := by
        change (acquired.pool lease.pool).dispatch _ _ = _
        simp only [Pool.dispatch, connected, found, ↓reduceIte]
      obtain ⟨bound, asleep, alone⟩ := acquires.idle helper found
      have away : helper ≠ thread := fun same => ready.active (same ▸ asleep)
      refine ⟨helper, system.begunWork thread scope (some lease) helper (.helper helper), _, ?_,
        @begun_sent system thread helper lease scope ready acquired (.helper helper)
          ({ · with helper := .busy helper system.works.length }) acquires bound (fun _ => asleep) alone
          acquires.leased ?_ ?_⟩
      · rw [submitted]
        simp only [handOver, handed]
        rfl
      · simp only [ne_eq, reduceCtorEq, not_false_eq_true, implies_true]
      · intro after here
        refine .helper away rfl rfl ?_
        rw [here]
        exact ⟨acquires.leased, acquires.empty, rfl⟩
    | busy helper work => exact absurd found (acquires.calm helper work)

/-! ## Ending -/

/-- A thread leaves its innermost activation, and has the stack that was set aside for it. -/
def stepOut (system : System) (thread : ThreadId) : System :=
  system.modifyThread thread fun t => { t with
    stack := (system.activation thread).saved.getLast?.getD t.stack
    activations := t.activations.tail }

private theorem popActivation_endProgram (system : System) (thread : ThreadId) :
    (system.endProgram thread).popActivation thread = system.stepOut thread := by
  rw [endProgram, stepOut]
  cases (system.activation thread).saved.getLast? with
  | none => rfl
  | some stack =>
    simp only [popActivation, setStack, modifyActivation, modifyThread, List.modify_modify_eq]
    congr 2
    funext t
    simp only [Function.comp_apply, Option.getD_some]
    cases t.activations <;> rfl

/-- A change of a work, seen through what it leaves as it was. -/
theorem field_modifyWork {α : Type} (system : System) (id other : WorkId) {change : Work → Work}
    (field : Work → α)
    (kept : ∀ work, field (change work) = field work) :
    field ((system.modifyWork id change).work other) = field (system.work other) := by
  rw [work_modifyWork]
  split_ifs
  · exact kept _
  · rfl

/-- A logic that is recorded, vacated and counted changes its scope, its slot and its own record. -/
private theorem completeWork_eq {work : WorkId} (kind : (system.work work).kind = .logic scope)
    (outcome : Except Failure.TaskError Unit) :
    ∃ change : Work → Work,
      ((system.recordOutcome work outcome false).vacateAtEnd work).completeWork work = { system with
      scopes := (system.scopes.modify scope (·.record outcome)).modify scope Scope.complete
      pools := (system.vacate work).pools
      works := system.works.modify work change } := by
  let before := system.modifyScope scope (·.record outcome)
  obtain ⟨failed, first⟩ : ∃ failed, system.recordOutcome work outcome false =
      before.modifyWork work ({ · with phase := .recorded, failed, unwound := false }) := by
    simp only [recordOutcome, kind]
    exact ⟨_, rfl⟩
  let recorded := before.modifyWork work ({ · with phase := .recorded, failed, unwound := false })
  have second : recorded.vacate work = { recorded with
      pools := (system.vacate work).pools
      works := recorded.works.modify work ({ · with leased := false }) } := by
    have leased : (recorded.work work).leased = (system.work work).leased :=
      field_modifyWork before work work Work.leased fun _ => rfl
    have station : (recorded.work work).station = (system.work work).station :=
      field_modifyWork before work work Work.station fun _ => rfl
    simp only [vacate, leased, station]
    split
    · rfl
    · rfl
  let vacated := (recorded.vacate work).modifyWork work ({ · with phase := .vacated })
  have still : (vacated.work work).kind = .logic scope :=
    calc (vacated.work work).kind
      _ = ((recorded.vacate work).work work).kind :=
        field_modifyWork (recorded.vacate work) work work Work.kind fun _ => rfl
      _ = (recorded.work work).kind := by
        rw [second]
        exact field_modifyWork recorded work work Work.kind fun _ => rfl
      _ = (before.work work).kind := field_modifyWork before work work Work.kind fun _ => rfl
      _ = .logic scope := kind
  have orderly : (vacated.work work).unwound = false :=
    calc (vacated.work work).unwound
      _ = ((recorded.vacate work).work work).unwound :=
        field_modifyWork (recorded.vacate work) work work Work.unwound fun _ => rfl
      _ = (recorded.work work).unwound := by
        rw [second]
        exact field_modifyWork recorded work work Work.unwound fun _ => rfl
      _ = false := by
        rw [work_modifyWork, if_pos ⟨rfl, @lt_of_kind before work scope kind⟩]
  refine ⟨({ · with phase := .over }) ∘ ({ · with phase := .vacated }) ∘ ({ · with leased := false }) ∘
    ({ · with phase := .recorded, failed, unwound := false }), ?_⟩
  rw [first]
  change vacated.completeWork work = _
  simp only [completeWork, still, orderly]
  simp only [vacated, second]
  simp only [recorded, before, modifyWork, modifyScope, List.modify_modify_eq]
  rfl

theorem pools_vacate (system : System) (work : WorkId) :
    (system.vacate work).pools = match (system.work work).held with
      | some lease => (system.release lease).pools
      | none => system.pools := by
  simp only [vacate, Work.held]
  cases (system.work work).leased with
  | false => rfl
  | true => cases (system.work work).station <;> rfl

theorem finishLogic_eq {work : WorkId} (kind : (system.work work).kind = .logic scope) (thread : ThreadId)
    (outcome : Except Failure.TaskError Unit) :
    ∃ change : Work → Work, system.finishLogic thread work outcome = { system.stepOut thread with
      scopes := (system.scopes.modify scope (·.record outcome)).modify scope Scope.complete
      pools := (system.vacate work).pools
      works := system.works.modify work change } := by
  obtain ⟨threads, same⟩ : ∃ threads, system.endProgram thread = { system with threads } := by
    rw [endProgram]
    split
    · exact ⟨_, rfl⟩
    · exact ⟨_, rfl⟩
  have still : (({ system with threads } : System).work work).kind = .logic scope := kind
  obtain ⟨change, completed⟩ := completeWork_eq still outcome
  have pools : (({ system with threads } : System).vacate work).pools = (system.vacate work).pools :=
    (pools_vacate _ work).trans (pools_vacate system work).symm
  refine ⟨change, ?_⟩
  rw [finishLogic, same, completed, ← popActivation_endProgram, same, pools]
  rfl

/-- A helper with an empty channel that has ended its work is idle, or gone. -/
theorem helperNext_rest {helper : ThreadId} {work : WorkId} (busy : (system.station lease).helper = .busy helper work)
    (empty : (system.station lease).waiting = none) :
    ∃ after, system.helperNext helper lease = (none, after) ∧
      after = { system with pools := after.pools, threads := after.threads } ∧
      after.station = Function.update system.station lease { system.station lease with
        helper := if (system.station lease).sender then .idle helper else .absent } ∧
      (∀ pool, (after.pool pool).nameStem = (system.pool pool).nameStem) ∧
      after.threads.length = system.threads.length ∧
      (∀ other, (after.thread other).activations = (system.thread other).activations) ∧
      ∀ other, other ≠ helper → after.thread other = system.thread other := by
  have there : system.HasSlot lease := hasSlot_of_helper (by simp only [busy, ne_eq, reduceCtorEq, not_false_eq_true])
  let rest : Helper WorkId := if (system.station lease).sender then .idle helper else .absent
  let turned := system.modifyPool lease.pool fun _ =>
    (system.pool lease.pool).modifySlot lease.slot ({ · with helper := rest })
  have taken : (system.pool lease.pool).nextJob lease.slot =
      (none, (system.pool lease.pool).modifySlot lease.slot ({ · with helper := rest })) := by
    rw [station] at busy empty
    simp only [Pool.nextJob, busy, empty]
    rfl
  let turn : Slot WorkId → Slot WorkId := ({ · with helper := rest })
  have stations : turned.station = Function.update system.station lease (turn (system.station lease)) :=
    station_modifyPool_slot (.inl there) rfl
  have named : ∀ pool, (turned.pool pool).nameStem = (system.pool pool).nameStem := nameStem_modifyPool rfl
  have result : system.helperNext helper lease = (none, turned) ∨
      system.helperNext helper lease = (none, turned.retire helper) := by
    simp only [helperNext, taken]
    split
    · exact .inr rfl
    · exact .inl rfl
    · exact .inl rfl
  rcases result with stays | leaves
  · exact ⟨turned, stays, rfl, stations, named, rfl, fun _ => rfl, fun _ _ => rfl⟩
  · refine ⟨turned.retire helper, leaves, rfl, stations, named, List.length_modify .., fun other => ?_,
      fun other ne => ?_⟩
    · rw [retire, setStack, thread_modifyThread]
      split_ifs
      · rfl
      · rfl
    · exact thread_modifyThread_of_ne ne _

/-- A thread has ended a logic: the scope is told, and the slot, if the logic held one, is free. -/
structure Finishes (thread : ThreadId) (work : WorkId) (scope : ScopeId) (outcome : Except Failure.TaskError Unit)
    (system after : System) : Prop where
  kept : after = { system with
    scopes := (system.scopes.modify scope (·.record outcome)).modify scope Scope.complete
    pools := after.pools, works := after.works, threads := after.threads }
  recorded : ∀ other, other ≠ work → after.work other = system.work other
  count : after.works.length = system.works.length
  length : after.threads.length = system.threads.length
  here : after.thread thread = { system.thread thread with
    stack := (system.activation thread).saved.getLast?.getD (system.stack thread)
    activations := (system.thread thread).activations.tail }
  others : ∀ other, other ≠ thread → after.thread other = system.thread other
  named : ∀ pool, (after.pool pool).nameStem = (system.pool pool).nameStem
  elsewhere : ∀ lease, (system.work work).held ≠ some lease → after.station lease = system.station lease
  released : ∀ lease, (system.work work).held = some lease →
    after.station lease = { system.station lease with leased := false }

theorem finishes (active : (system.thread thread).activations ≠ []) {work : WorkId}
    (kind : (system.work work).kind = .logic scope) (outcome : Except Failure.TaskError Unit) :
    system.Finishes thread work scope outcome (system.finishLogic thread work outcome) := by
  obtain ⟨change, finished⟩ := finishLogic_eq kind thread outcome
  have pools : (system.finishLogic thread work outcome).pools = _ :=
    (congrArg System.pools finished).trans (pools_vacate system work)
  let slotChange : Slot WorkId → Slot WorkId := ({ · with leased := false })
  have released {lease : Lease} (held : (system.work work).held = some lease) :
      (system.finishLogic thread work outcome).station = Function.update system.station lease
        (slotChange (system.station lease)) := by
    simp only [held] at pools
    funext other
    rw [station_of_pools pools]
    exact congrFun (station_modifyPool_slot (.inr rfl) rfl) other
  have threads := thread_of_threads (congrArg System.threads finished)
  constructor
  case kept =>
    rw [finished]
    rfl
  case recorded =>
    intro other ne
    rw [work_of_works (congrArg System.works finished)]
    exact (work_modifyWork system work other change).trans (if_neg fun both => ne both.1)
  case count =>
    rw [finished]
    exact List.length_modify ..
  case length =>
    rw [finished]
    exact List.length_modify ..
  case here =>
    rw [threads]
    exact thread_modifyThread_self active _
  case others =>
    intro other ne
    rw [threads]
    exact thread_modifyThread_of_ne ne _
  case named =>
    intro pool
    rw [System.pool, pools]
    cases (system.work work).held with
    | none => rfl
    | some lease => exact nameStem_modifyPool rfl pool
  case elsewhere =>
    intro lease free
    cases held : (system.work work).held with
    | none =>
      simp only [held] at pools
      exact station_of_pools pools lease
    | some other =>
      have ne : lease ≠ other := fun same => free (held.trans (congrArg some same.symm))
      rw [released held, Function.update_of_ne ne]
  case released =>
    intro lease held
    rw [released held, Function.update_self]

/-! ## Coming to rest -/

/-- Pools have been dropped, and the helper of a slot that a worker had has come to rest, if there is one.
No thread that runs something can tell. -/
structure Rests (worker : ThreadId) (spot : Option Lease) (system after : System) : Prop where
  kept : after = { system with pools := after.pools, threads := after.threads }
  elsewhere : ∀ lease, spot ≠ some lease →
    after.station lease = system.station lease ∨ after.station lease = (system.station lease).cut
  here : ∀ lease, spot = some lease → (after.station lease).waiting = none ∧
    ((after.station lease).helper = .absent ∨
      (after.station lease).helper = .idle worker ∧ (system.thread worker).activations = [])
  named : ∀ pool, (after.pool pool).nameStem = (system.pool pool).nameStem
  length : after.threads.length = system.threads.length
  activations : ∀ other, (after.thread other).activations = (system.thread other).activations
  others : ∀ other, (system.thread other).activations ≠ [] → after.thread other = system.thread other

/-- Idle helpers run nothing. -/
def Calm (system : System) : Prop :=
  ∀ lease helper, (system.station lease).helper = .idle helper → (system.thread helper).activations = []

theorem Dismisses.awake (dismisses : system.Dismisses after) (calm : system.Calm) (other : ThreadId)
    (active : (system.thread other).activations ≠ []) : after.thread other = system.thread other :=
  dismisses.others other fun lease idle => active (calm lease other idle)

theorem dismiss_rests (calm : system.Calm) (spot : Option Lease)
    (here : ∀ lease, spot = some lease → (system.station lease).waiting = none ∧
      (system.station lease).helper = .absent) :
    system.Rests worker spot system.dismiss := by
  have dismisses := dismisses_dismiss system
  constructor
  case kept => exact dismisses.kept
  case elsewhere => exact fun lease _ => dismisses.stations lease
  case here =>
    intro lease spotted
    obtain ⟨empty, gone⟩ := here lease spotted
    rcases dismisses.stations lease with same | cut
    · rw [same]
      exact ⟨empty, .inl gone⟩
    · rw [cut]
      exact ⟨empty, .inl (by simp only [Slot.cut, gone])⟩
  case named => exact dismisses.named
  case length => exact dismisses.length
  case activations => exact dismisses.activations
  case others => exact dismisses.awake calm

theorem helperNext_rests (calm : system.Calm) {work : WorkId} (asleep : (system.thread worker).activations = [])
    (empty : (system.station lease).waiting = none) (busy : (system.station lease).helper = .busy worker work) :
    ∃ after, system.dismiss.helperNext worker lease = (none, after) ∧ system.Rests worker (some lease) after := by
  have dismisses := dismisses_dismiss system
  have here : (system.dismiss.station lease).waiting = none ∧
    (system.dismiss.station lease).helper = .busy worker work := by
    rcases dismisses.stations lease with same | cut
    · rw [same]
      exact ⟨empty, busy⟩
    · rw [cut]
      exact ⟨empty, by simp only [Slot.cut, busy]⟩
  obtain ⟨after, turned, kept, stations, named, length, activations, others⟩ := helperNext_rest here.2 here.1
  refine ⟨after, turned, ?_⟩
  constructor
  case kept => rw [kept, dismisses.kept]
  case elsewhere =>
    intro other ne
    rw [stations, Function.update_of_ne fun same => ne (congrArg some same.symm)]
    exact dismisses.stations other
  case here =>
    rintro other same
    obtain rfl := Option.some.inj same
    rw [stations, Function.update_self]
    refine ⟨here.1, ?_⟩
    dsimp only
    split_ifs
    · exact .inr ⟨rfl, asleep⟩
    · exact .inl rfl
  case named => exact fun pool => (named pool).trans (dismisses.named pool)
  case length => exact length.trans dismisses.length
  case activations => exact fun other => (activations other).trans (dismisses.activations other)
  case others =>
    intro other active
    have ne : other ≠ worker := fun same => active (same ▸ asleep)
    rw [others other ne, dismisses.awake calm other active]

/-! ## The whole way -/

namespace Finishes

variable {work : WorkId} {outcome : Except Failure.TaskError Unit}

theorem idle_before (finishes : system.Finishes worker work scope outcome after) {helper : ThreadId}
    (idle : (after.station lease).helper = .idle helper) : (system.station lease).helper = .idle helper := by
  by_cases held : (system.work work).held = some lease
  · rw [finishes.released lease held] at idle
    exact idle
  · rw [finishes.elsewhere lease held] at idle
    exact idle

/-- A helper that is idle was so while the logic ran, so it is not the one that ran it. -/
theorem calm (finishes : system.Finishes worker work scope outcome after) (ready : system.Ready worker) :
    after.Calm := by
  intro lease helper idle
  obtain ⟨-, rested⟩ := ready.staffed.rested lease helper (finishes.idle_before idle)
  rw [finishes.others helper fun same => ready.active (same ▸ rested), rested]

/-- Once a logic has ended and its slot has come to rest, the helpers are at rest. -/
theorem staffed {last : System} (finishes : system.Finishes worker work scope outcome after)
    (ready : system.Ready worker)
    (rests : after.Rests worker (system.work work).held last) : last.Staffed := by
  have length := rests.length.trans finishes.length
  have awake (lease : Lease) : (system.station lease).helper ≠ .idle worker :=
    fun idle => ready.active (ready.staffed.rested lease worker idle).2
  refine ready.staffed.of_change (system.work work).held (fun lease free => ?_) (fun lease held => ?_)
    (fun lease helper free idle => ?_)
    (fun pool => ?_) ?_
  · rw [← finishes.elsewhere lease free]
    exact rests.elsewhere lease free
  · obtain ⟨empty, absent | ⟨idle, asleep⟩⟩ := rests.here lease held
    · simp only [absent, reduceCtorEq, ne_eq, not_false_eq_true, implies_true, IsEmpty.forall_iff, empty, and_self]
    · refine ⟨fun _ => ⟨empty, fun helper work busy => ?_⟩, fun helper turned => ?_⟩
      · rw [idle] at busy
        exact absurd busy (by simp only [reduceCtorEq, not_false_eq_true])
      · obtain rfl : worker = helper := Helper.idle.inj (idle.symm.trans turned)
        refine ⟨⟨?_, (rests.activations worker).trans asleep⟩, fun other _ => awake other⟩
        exact length ▸ lt_of_activations ready.active
  · obtain ⟨bound, rested⟩ := ready.staffed.rested lease helper idle
    rw [length, rests.activations, finishes.others helper fun same => ready.active (same ▸ rested)]
    exact ⟨bound, rested⟩
  · rw [rests.named, finishes.named]
    exact ready.staffed.named pool
  · rw [rests.kept, finishes.kept]
    exact ready.staffed.nameable

end Finishes

namespace Begun

variable {work : Work} {last finished final : System} {outcome : Except Failure.TaskError Unit}

theorem work_eq (begun : system.Begun thread scope worker work after) (inner : after.Minds worker last) :
    last.work system.works.length = work := by
  have bound : system.works.length < after.works.length := by
    rw [begun.works, List.length_append]
    exact Nat.lt_succ_self _
  rw [inner.recorded _ bound, work_of_append begun.works, if_pos rfl]

/-- When a logic has ended and its slot has come to rest, its submitter has what it had. -/
theorem thread_eq (begun : system.Begun thread scope worker work after) (ready : system.Ready thread)
    (inner : after.Minds worker last) (stack : last.stack worker = system.stack thread)
    (finishes : last.Finishes worker system.works.length scope outcome finished)
    (rests : finished.Rests worker work.held final) :
    final.stack thread = system.stack thread ∧
      (final.thread thread).activations = (system.thread thread).activations := by
  obtain ⟨saved, chain, own⟩ := begun.chain
  by_cases itself : worker = thread
  · subst itself
    have aside : (last.activation worker).saved = saved := by
      rw [inner.saved, activation, chain]
      rfl
    have back : finished.thread worker = { last.thread worker with
        stack := system.stack worker
        activations := (system.thread worker).activations } := by
      rw [finishes.here, aside, stack, own rfl, inner.chain, chain]
      rfl
    have goesOn := rests.others worker (by rw [back]; exact ready.active)
    rw [System.stack, goesOn, back]
    exact ⟨rfl, rfl⟩
  · have waits : after.thread thread = system.thread thread := begun.others thread (Ne.symm itself) ready.active
    have still : last.thread thread = after.thread thread :=
      inner.others thread (Ne.symm itself) (waits ▸ ready.active)
    have back := (finishes.others thread (Ne.symm itself)).trans (still.trans waits)
    have goesOn := (rests.others thread (back ▸ ready.active)).trans back
    rw [System.stack, goesOn]
    exact ⟨rfl, rfl⟩

/-- A logic minds the threads besides its submitter's, on whatever thread it has run. -/
theorem minds (begun : system.Begun thread scope worker work after) (ready : system.Ready thread)
    (inner : after.Minds worker last) (stack : last.stack worker = system.stack thread)
    (finishes : last.Finishes worker system.works.length scope outcome finished)
    (rests : finished.Rests worker work.held final) : system.Minds thread final := by
  have held : (last.work system.works.length).held = work.held := congrArg Work.held (begun.work_eq inner)
  obtain ⟨-, same⟩ := begun.thread_eq ready inner stack finishes rests
  have count : after.works.length = system.works.length + 1 := by
    rw [begun.works]
    exact List.length_append
  have worksKept : final.works = finished.works := by rw [rests.kept]
  constructor
  case ready => exact ⟨finishes.staffed inner.ready (held ▸ rests), by rw [same]; exact ready.active⟩
  case works =>
    have grown := inner.works
    rw [worksKept, finishes.count]
    omega
  case recorded =>
    intro other bound
    rw [work_of_works worksKept, finishes.recorded other (Nat.ne_of_lt bound), inner.recorded other (by omega),
      work_of_append begun.works, if_neg (Nat.ne_of_lt bound)]
  case others =>
    intro other ne active
    by_cases itself : other = worker
    · subst itself
      exact absurd (begun.asleep ne) active
    · have waits := begun.others other itself active
      have still := inner.others other itself (waits ▸ active)
      have back := (finishes.others other itself).trans (still.trans waits)
      exact (rests.others other (back ▸ active)).trans back
  case chain => rw [same]
  case saved => rw [activation, activation, same]
  case slots =>
    intro lease leased
    have free : work.held ≠ some lease := fun holds => absurd ((begun.free lease holds).symm.trans leased) (by decide)
    have untouched := begun.slots lease leased
    have during := inner.slots lease (untouched ▸ leased)
    rw [untouched] at during
    rw [← finishes.elsewhere lease (held ▸ free)] at during
    exact Slot.same_or_cut_trans during (rests.elsewhere lease free)

end Begun

end System

end ScopedWork
