import ScopedWork.Proofs.Actions
import ScopedWork.Proofs.Fates
import ScopedWork.Proofs.Threads

/-! # What no action looks at

Until a context is left, the note on how it is being left is nobody's business, and the payloads of caught panics
are not even then. If the notes and the payloads of a process are changed, the same actions are possible, and they
do the same; and when the context is left at last, its scope, its stack and everything else is the same as well. So
a context that is exited and one that is dropped lead to the same process.
-/

namespace ScopedWork

/-- A change of what no action looks at. -/
structure Renoting where
  /-- The notes on which context is being left, and how. -/
  leaving : ScopeId × Departure → ScopeId × Departure := id
  /-- The payloads of caught panics. -/
  cells : Failure.Cells → Failure.Cells := id

variable (note : Renoting)

def Activation.renote (activation : Activation) : Activation :=
  { activation with leaving := activation.leaving.map note.leaving }

def Thread.renote (thread : Thread) : Thread :=
  { thread with activations := thread.activations.map (·.renote note) }

namespace System

variable {system : System} {thread : ThreadId}

def renote (system : System) : System :=
  { system with threads := system.threads.map (·.renote note), cells := note.cells system.cells }

/-! ## Reading -/

theorem thread_renote (id : ThreadId) : (system.renote note).thread id = (system.thread id).renote note := by
  rw [System.thread, renote, List.getElem?_map, System.thread]
  cases system.threads[id]? <;> rfl

theorem stack_renote (id : ThreadId) : (system.renote note).stack id = system.stack id := by
  rw [System.stack, thread_renote]
  rfl

theorem activation_renote (id : ThreadId) :
    (system.renote note).activation id = (system.activation id).renote note := by
  rw [System.activation, thread_renote, System.activation, Thread.renote]
  cases (system.thread id).activations <;> rfl

/-! ## Changing -/

theorem modifyThread_renote {change : Thread → Thread} (same : ∀ t, change (t.renote note) = (change t).renote note)
    (id : ThreadId) : (system.renote note).modifyThread id change = (system.modifyThread id change).renote note := by
  have view := map_modify_of_comm (fun t => (same t).symm) system.threads id
  rw [modifyThread, renote, ← view]
  rfl

theorem modifyActivation_renote {alter : Activation → Activation}
    (same : ∀ a, alter (a.renote note) = (alter a).renote note) (id : ThreadId) :
    (system.renote note).modifyActivation id alter = (system.modifyActivation id alter).renote note := by
  refine modifyThread_renote note (fun t => ?_) id
  simp only [Thread.renote]
  cases t.activations with
  | nil => rfl
  | cons activation outer => simp only [List.map_cons, List.modifyHead_cons, same]

theorem setStack_renote (id : ThreadId) (stack : Stack) :
    (system.renote note).setStack id stack = (system.setStack id stack).renote note :=
  @modifyThread_renote note system ({ · with stack }) (fun _ => rfl) id

theorem addThread_renote {added : Thread} (fresh : added.renote note = added) :
    ((system.renote note).addThread added).2 = (system.addThread added).2.renote note := by
  rw [addThread, addThread, renote, renote, List.map_append, List.map_singleton, fresh]

/-! ## Contexts -/

theorem getGlobalPool_renote (system : System) :
    (system.renote note).getGlobalPool = (system.getGlobalPool.1, system.getGlobalPool.2.renote note) := by
  rw [getGlobalPool, getGlobalPool]
  dsimp only [renote]
  split <;> rfl

theorem getStandardRoot_renote (system : System) :
    (system.renote note).getStandardRoot = (system.getStandardRoot.1, system.getStandardRoot.2.renote note) := by
  let fixed : System := { system with setting := system.setting.concurrency.2 }
  have found : ({ system.renote note with setting := system.setting.concurrency.2 } : System).getGlobalPool =
      (fixed.getGlobalPool.1, fixed.getGlobalPool.2.renote note) := getGlobalPool_renote note fixed
  cases made : system.standardRoot with
  | some known =>
    have again : (system.renote note).standardRoot = some known := made
    rw [getStandardRoot_of_made made, getStandardRoot_of_made again]
  | none =>
    have again : (system.renote note).standardRoot = none := made
    have setting : (system.renote note).setting = system.setting := rfl
    rw [getStandardRoot_of_missing made, getStandardRoot_of_missing again]
    dsimp only
    rw [setting, found]
    rfl

theorem enclosing_renote (system : System) (thread : ThreadId) : (system.renote note).enclosing thread =
    ((system.enclosing thread).1, (system.enclosing thread).2.renote note) := by
  rw [enclosing, enclosing, stack_renote]
  split
  · rfl
  · rw [supplyRoot, supplyRoot]
    have same : (system.renote note).registered.bind (fun id =>
        ((system.renote note).factories[id]?).map fun found => (id, found)) =
      system.registered.bind (fun id => (system.factories[id]?).map fun found => (id, found)) := rfl
    rw [same]
    split
    · rename_i id factory _
      cases factory.source with
      | scope root => rfl
      | fresh pool concurrency => rfl
      | standard => exact getStandardRoot_renote note (system.countLookup id)
    · exact getStandardRoot_renote note system

theorem enterIn_renote (system : System) (thread : ThreadId) (parent : ScopeId) (tenure : Tenure) :
    ((system.renote note).enterIn thread parent tenure).2 = (system.enterIn thread parent tenure).2.renote note := by
  let entered := (system.addScope ((system.scope parent).child parent (system.activation thread).within)).2
  have within : ((system.renote note).activation thread).within = (system.activation thread).within := by
    rw [activation_renote]
    rfl
  rw [enterIn, within]
  change ((entered.renote note).modifyThread thread _).modifyActivation thread _ = _
  rw [modifyThread_renote note, modifyActivation_renote note]
  all_goals first | rfl | exact fun _ => rfl

theorem attach_renote (system : System) (thread : ThreadId) (snapshot : Stack) :
    (system.renote note).attach thread snapshot = (system.attach thread snapshot).renote note := by
  rw [attach, stack_renote, modifyActivation_renote note, setStack_renote]
  all_goals first | rfl | exact fun _ => rfl

theorem detach_renote (system : System) (thread : ThreadId) :
    (system.renote note).detach thread = (system.detach thread).renote note := by
  have saved : ((system.renote note).activation thread).saved = (system.activation thread).saved := by
    rw [activation_renote]
    rfl
  rw [detach, detach, saved]
  split
  · rfl
  · rw [modifyActivation_renote note, setStack_renote]
    exact fun _ => rfl

/-- To begin to leave a context is to note it. -/
theorem beginLeave_renote {scope : ScopeId} {departure noted : Departure}
    (notes : note.leaving (scope, departure) = (scope, noted)) (system : System) (thread : ThreadId) :
    (system.renote note).beginLeave thread scope noted = (system.beginLeave thread scope departure).renote note := by
  let leaves (departure : Departure) (t : Thread) : Thread :=
    { t with activations := t.activations.modifyHead ({ · with leaving := some (scope, departure) }) }
  have same (t : Thread) : (leaves departure t).renote note = leaves noted (t.renote note) := by
    simp only [leaves, Thread.renote]
    cases t.activations with
    | nil => rfl
    | cons activation outer =>
      simp only [List.modifyHead_cons, List.map_cons, Activation.renote, Option.map_some, notes]
  have view := map_modify_of_comm same system.threads thread
  have threads : ((system.renote note).beginLeave thread scope noted).threads =
      ((system.beginLeave thread scope departure).renote note).threads := view.symm
  exact congrArg (fun threads : List Thread =>
    ({ system.modifyScope scope Scope.drain with threads, cells := note.cells system.cells } : System)) threads

/-! ## Leases -/

theorem lease?_renote (system : System) (thread : ThreadId) (name : String) :
    (system.renote note).lease? thread name = system.lease? thread name := by
  rw [lease?, activation_renote]
  rfl

theorem keepLease_renote (system : System) (thread : ThreadId) (name : String) (lease : Lease) :
    (system.renote note).keepLease thread name lease = (system.keepLease thread name lease).renote note := by
  rw [keepLease, modifyActivation_renote note]
  all_goals first | rfl | exact fun _ => rfl

theorem takeLease_renote (system : System) (thread : ThreadId) (name : String) :
    (system.renote note).takeLease thread name = (system.takeLease thread name).renote note := by
  rw [takeLease, modifyActivation_renote note]
  all_goals first | rfl | exact fun _ => rfl

theorem acquire_renote (system : System) (pool : PoolId) (limit : Nat) : (system.renote note).acquire pool limit =
    ((system.acquire pool limit).1, (system.acquire pool limit).2.renote note) := by
  have length : (system.renote note).threads.length = system.threads.length := List.length_map _
  rw [acquire, acquire, length]
  cases tried : (system.pool pool).tryAcquire limit system.threads.length with
  | mk acquired changed =>
    have same : ((system.renote note).pool pool).tryAcquire limit system.threads.length = (acquired, changed) := tried
    rw [same]
    dsimp only
    split
    · rfl
    · rfl
    · split
      · refine congrArg (Prod.mk _) ?_
        exact @addThread_renote note (system.modifyPool pool fun _ => changed) { name := _ } rfl
      · rfl

/-! ## Works -/

theorem vacate_renote (system : System) (work : WorkId) :
    (system.renote note).vacate work = (system.vacate work).renote note := by
  have same : (system.renote note).work work = system.work work := rfl
  simp only [vacate, same]
  split <;> rfl

theorem beginWork_renote (system : System) (thread : ThreadId) (work : WorkId) (snapshot : Option Stack) :
    (system.renote note).beginWork thread work snapshot = (system.beginWork thread work snapshot).renote note := by
  let begins (w : Work) : Work := { w with phase := .running, snapshot := none, runs := thread :: w.runs }
  rw [beginWork_eq, beginWork_eq, stack_renote]
  change ((system.modifyWork work begins).renote note).modifyThread thread _ = _
  rw [modifyThread_renote note]
  all_goals first | rfl | exact fun _ => rfl

theorem handOver_renote (system : System) (thread : ThreadId) (lease : Lease) (work : WorkId)
    (snapshot : Option Stack) :
    (system.renote note).handOver thread lease work snapshot =
      ((system.handOver thread lease work snapshot).1, (system.handOver thread lease work snapshot).2.renote note) := by
  have same : (system.renote note).pool lease.pool = system.pool lease.pool := rfl
  let sent := system.modifyPool lease.pool fun _ => ((system.pool lease.pool).dispatch lease.slot work).2
  have begins (worker : ThreadId) (placement : Placement) :
      (placement, ((sent.renote note).beginWork worker work snapshot).modifyWork work ({ · with placement })) =
        (placement, ((sent.beginWork worker work snapshot).modifyWork work ({ · with placement })).renote note) := by
    rw [beginWork_renote]
    rfl
  simp only [handOver, same]
  split
  · exact begins thread .returned
  · exact begins _ _
  · rfl
  · rfl

theorem submit_renote (system : System) (thread : ThreadId) (scope : ScopeId) :
    ((system.renote note).submit thread scope).2 = (system.submit thread scope).2.renote note := by
  have within : ((system.renote note).activation thread).within = (system.activation thread).within := by
    rw [activation_renote]
    rfl
  have had := acquire_renote note (system.modifyScope scope Scope.countDispatched) (system.scope scope).pool
    (system.scope scope).concurrency
  have asked : ((system.renote note).modifyScope scope Scope.countDispatched).acquire
      ((system.renote note).scope scope).pool ((system.renote note).scope scope).concurrency = _ := had
  simp only [submit, asked, within, stack_renote]
  -- from here on it does not matter how the lease was found
  generalize (system.modifyScope scope Scope.countDispatched).acquire (system.scope scope).pool
    (system.scope scope).concurrency = tried
  obtain ⟨payload | _ | lease, granted⟩ := tried
  · rfl
  · let placed := ((granted.modifyScope scope Scope.countInlined).addWork (inlineLogic scope thread
      (system.activation thread).within)).2
    exact beginWork_renote note placed thread granted.works.length none
  · let placed := ((granted.modifyScope scope Scope.countPooled).addWork (pooledWork (.logic scope) thread
      (system.activation thread).within lease (some (system.stack thread)))).2
    exact congrArg Prod.snd (handOver_renote note placed thread lease granted.works.length (some (system.stack thread)))

theorem dispatchJob_renote (system : System) (thread : ThreadId) (lease : Lease) :
    ((system.renote note).dispatchJob thread lease).2 = (system.dispatchJob thread lease).2.renote note := by
  have within : ((system.renote note).activation thread).within = (system.activation thread).within := by
    rw [activation_renote]
    rfl
  let placed := (system.addWork (pooledWork .job thread (system.activation thread).within lease none)).2
  simp only [dispatchJob, within]
  exact congrArg Prod.snd (handOver_renote note placed thread lease system.works.length none)

theorem endProgram_renote (system : System) (thread : ThreadId) :
    (system.renote note).endProgram thread = (system.endProgram thread).renote note := by
  have saved : ((system.renote note).activation thread).saved = (system.activation thread).saved := by
    rw [activation_renote]
    rfl
  rw [endProgram, endProgram, saved]
  split
  · rw [modifyActivation_renote note, setStack_renote]
    exact fun _ => rfl
  · rfl

theorem recordOutcome_renote (system : System) (work : WorkId) (outcome : Except Failure.TaskError Unit)
    (unwound : Bool) : (system.renote note).recordOutcome work outcome unwound =
      (system.recordOutcome work outcome unwound).renote note := by
  have same : (system.renote note).work work = system.work work := rfl
  simp only [recordOutcome, same]
  split <;> rfl

theorem completeWork_renote (system : System) (work : WorkId) :
    (system.renote note).completeWork work = (system.completeWork work).renote note := by
  have same : (system.renote note).work work = system.work work := rfl
  simp only [completeWork, same]
  split <;> rfl

theorem popActivation_renote (system : System) (thread : ThreadId) :
    (system.renote note).popActivation thread = (system.popActivation thread).renote note := by
  rw [popActivation, modifyThread_renote note]
  · rfl
  · intro t
    simp only [Thread.renote, List.map_tail]

/-! ## Helpers -/

theorem retire_renote (system : System) (helper : ThreadId) :
    (system.renote note).retire helper = (system.retire helper).renote note :=
  setStack_renote note helper {}

theorem helperNext_renote (system : System) (helper : ThreadId) (station : Lease) :
    ((system.renote note).helperNext helper station).2 = (system.helperNext helper station).2.renote note := by
  let turned := system.modifyPool station.pool fun _ => ((system.pool station.pool).nextJob station.slot).2
  have begins (worker : ThreadId) (work : WorkId) (snapshot : Option Stack) (change : Work → Work) :
      ((turned.renote note).beginWork worker work snapshot).modifyWork work change =
        ((turned.beginWork worker work snapshot).modifyWork work change).renote note := by
    rw [beginWork_renote]
    rfl
  have same : (system.renote note).pool station.pool = system.pool station.pool := rfl
  simp only [helperNext, same]
  split
  · exact begins _ _ _ _
  · split
    · exact retire_renote note turned helper
    · rfl
    · rfl

theorem helperDies_renote (system : System) (helper : ThreadId) (station : Lease) :
    ((system.renote note).helperDies helper station).2 = (system.helperDies helper station).2.renote note := by
  let dead := system.modifyPool station.pool fun _ => ((system.pool station.pool).helperDies station.slot).2
  have discards (work : WorkId) (change : Work → Work) :
      (((dead.renote note).retire helper).vacate work).modifyWork work change =
      (((dead.retire helper).vacate work).modifyWork work change).renote note := by
    rw [retire_renote, vacate_renote]
    rfl
  have same : (system.renote note).pool station.pool = system.pool station.pool := rfl
  simp only [helperDies, same]
  split
  · exact retire_renote note dead helper
  · exact discards _ _

theorem shutdown_renote (system : System) (pool : PoolId) :
    (system.renote note).shutdown pool = (system.shutdown pool).renote note := by
  have all (helpers : List ThreadId) (system : System) :
      helpers.foldl retire (system.renote note) = (helpers.foldl retire system).renote note := by
    induction helpers generalizing system with
    | nil => rfl
    | cons helper rest ih =>
      rw [List.foldl_cons, List.foldl_cons, ← ih]
      rw [retire_renote]
  exact all _ (system.modifyPool pool Pool.shutdown)

/-! ## What is enabled -/

theorem isRunning_renote (system : System) (thread : ThreadId) :
    (system.renote note).isRunning thread = system.isRunning thread := by
  rw [isRunning, isRunning, thread_renote]
  simp only [Thread.renote]
  cases (system.thread thread).activations with
  | nil => rfl
  | cons activation outer =>
    have staying : (activation.leaving.map note.leaving).isNone = activation.leaving.isNone := Option.isNone_map
    simp only [List.map_cons, Activation.renote, staying]
    rfl

theorem currentWork?_renote (system : System) (thread : ThreadId) :
    (system.renote note).currentWork? thread = system.currentWork? thread := by
  rw [currentWork?, activation_renote]
  rfl

theorem owns_renote (system : System) (thread : ThreadId) (scope : ScopeId) :
    (system.renote note).owns thread scope = system.owns thread scope := by
  rw [owns, activation_renote]
  rfl

theorem isBare_renote (system : System) (thread : ThreadId) :
    (system.renote note).isBare thread = system.isBare thread := by
  rw [isBare, activation_renote]
  rfl

theorem attachments_renote (system : System) (thread : ThreadId) :
    (system.renote note).attachments thread = system.attachments thread := by
  simp only [attachments]
  rw [activation_renote]
  rfl

theorem isJoined_renote (system : System) (work : WorkId) :
    (system.renote note).isJoined work = system.isJoined work := by
  rw [isJoined, isJoined, renote, List.all_map]
  congr 1
  funext thread
  exact List.all_map

theorem canEnd_renote (system : System) (thread : ThreadId) (kind : WorkKind → Bool) :
    (system.renote note).canEnd thread kind = system.canEnd thread kind := by
  rw [canEnd, isRunning_renote, isBare_renote, currentWork?_renote, canEnd]
  cases system.currentWork? thread with
  | none => rfl
  | some work =>
    have joined := isJoined_renote note system work
    simp only [joined]
    rfl

theorem isEnding_renote (system : System) (thread : ThreadId) (phase : WorkPhase) :
    (system.renote note).isEnding thread phase = system.isEnding thread phase := by
  rw [isEnding, currentWork?_renote]
  rfl

theorem isUsable_enclosing_renote (system : System) (thread : ThreadId) :
    ((system.renote note).enclosing thread).2.isUsable ((system.renote note).enclosing thread).1 =
      (system.enclosing thread).2.isUsable (system.enclosing thread).1 := by
  rw [enclosing_renote]
  rfl

theorem withCurrentWork_renote (system : System) (thread : ThreadId) (change : System → WorkId → System)
    (same : ∀ work, change (system.renote note) work = (change system work).renote note) :
    (system.renote note).withCurrentWork thread (change (system.renote note)) =
      (system.withCurrentWork thread (change system)).renote note := by
  rw [withCurrentWork, withCurrentWork, currentWork?_renote]
  cases system.currentWork? thread with
  | none => rfl
  | some work => exact same work

theorem withHelper_renote (system : System) (station : Lease) (change : System → ThreadId → System)
    (same : ∀ helper, change (system.renote note) helper = (change system helper).renote note) :
    (system.renote note).withHelper station (change (system.renote note)) =
      (system.withHelper station (change system)).renote note := by
  have here : (system.renote note).station station = system.station station := rfl
  rw [withHelper, withHelper, here]
  split
  · exact same _
  · exact same _
  · rfl

theorem withLease_renote (system : System) (thread : ThreadId) (name : String) (change : System → Lease → System)
    (same : ∀ system lease, change (renote note system) lease = (change system lease).renote note) :
    (system.renote note).withLease thread name change = (system.withLease thread name change).renote note := by
  rw [withLease, withLease, lease?_renote, takeLease_renote]
  cases system.lease? thread name with
  | none => rfl
  | some lease => exact same _ lease

/-- A join is over when the logics of the scope are that is being left. -/
theorem isSome_leave? (system : System) (thread : ThreadId) : (system.leave? thread).isSome =
    (system.activation thread).leaving.any fun target => (system.scope target.1).isSettled := by
  rw [leave?]
  cases (system.activation thread).leaving with
  | none => rfl
  | some target =>
    obtain ⟨scope, departure⟩ := target
    dsimp only [Option.any_some]
    cases (system.scope scope).isSettled <;> rfl

variable {note} {action : Action} {events : List Event}

/-- With other notes the same actions are possible. -/
theorem enabled_renote (keeps : ∀ target, (note.leaving target).1 = target.1) :
    (system.renote note).Enabled action ↔ system.Enabled action := by
  have leaves (thread : ThreadId) : ((system.renote note).leave? thread).isSome = (system.leave? thread).isSome := by
    rw [isSome_leave?, isSome_leave?, activation_renote, Activation.renote, Option.any_map]
    congr 1
    funext target
    exact congrArg (fun scope => (system.scope scope).isSettled) (keeps target)
  cases action with
  | enter thread tenure => simp only [Enabled, isRunning_renote, isUsable_enclosing_renote]
  | beginExit | beginDrop => simp only [Enabled, isRunning_renote, owns_renote]
  | submit =>
    simp only [Enabled, isRunning_renote, owns_renote]
    rfl
  | leave thread => simp only [Enabled, leaves]
  | detach => simp only [Enabled, isRunning_renote, attachments_renote]
  | dropLease | dispatch | passLease => simp only [Enabled, isRunning_renote, lease?_renote]
  | acquire =>
    simp only [Enabled, isRunning_renote, lease?_renote]
    rfl
  | free => simp only [Enabled, isRunning_renote, currentWork?_renote]
  | endLogic | endJob => simp only [Enabled, canEnd_renote]
  | vacate | complete => simp only [Enabled, isEnding_renote]
  | attach | start => simp only [Enabled, isRunning_renote]
  | enterIn =>
    simp only [Enabled, isRunning_renote]
    rfl
  | finish thread =>
    have length : ((system.renote note).thread thread).activations.length =
        (system.thread thread).activations.length := by
      rw [thread_renote]
      exact List.length_map _
    simp only [Enabled, isRunning_renote, isBare_renote, currentWork?_renote, length]
  | next | die | reduce | makePool | dropPool | bar | makeRoot | makeFactory | reroute | register | configure => rfl

theorem left_renote (system : System) (thread : ThreadId) (scope : ScopeId) :
    (system.renote note).left thread scope = (system.left thread scope).renote note := by
  have unstacked : (system.renote note).unstack thread scope = (system.unstack thread scope).renote note := by
    rw [unstack, modifyThread_renote note]
    all_goals first | rfl | exact fun _ => rfl
  have forgotten (system : System) :
      (system.renote note).forgetHandle thread scope = (system.forgetHandle thread scope).renote note := by
    rw [forgetHandle, modifyActivation_renote note]
    all_goals first | rfl | exact fun _ => rfl
  rw [left, unstacked]
  exact forgotten ((system.unstack thread scope).closeScope scope).2

/-- With other notes an action does the same, and notes the same if it notes anything. -/
theorem perform_renote (keeps : ∀ target, (note.leaving target).1 = target.1) (sound : system.picture.Sound events)
    (enabled : system.Enabled action) (unnoted : ∀ thread scope departure,
      action = .beginExit thread scope ∨ action = .beginDrop thread scope →
        note.leaving (scope, departure) = (scope, departure)) :
    (system.renote note).perform action = (system.perform action).renote note := by
  cases action with
  | enter thread tenure =>
    simp only [perform, enter, enclosing_renote]
    exact enterIn_renote note _ thread _ tenure
  | enterIn thread parent tenure => exact enterIn_renote note system thread parent tenure
  | submit thread scope => exact submit_renote note system thread scope
  | beginExit thread scope =>
    simp only [perform, beginExit, stack_renote]
    exact beginLeave_renote note (unnoted thread scope _ (.inl rfl)) system thread
  | beginDrop thread scope => exact beginLeave_renote note (unnoted thread scope .drop (.inr rfl)) system thread
  | leave thread =>
    obtain ⟨activation, others, scope, departure, top, leaving, -, settled, entered, performed⟩ :=
      leave_cases sound enabled
    simp only [Scope.isEntered, Bool.and_eq_true, bne_iff_ne, ne_eq] at entered
    have noted : ((system.renote note).activation thread).leaving = some (note.leaving (scope, departure)) := by
      rw [activation_renote, top.activation_eq, Activation.renote, leaving]
      rfl
    have target := keeps (scope, departure)
    generalize note.leaving (scope, departure) = other at noted target
    obtain ⟨there, otherwise⟩ := other
    obtain rfl : there = scope := target
    have still : ((system.renote note).scope there).isSettled = true := settled
    rw [performed, ← left_renote, ← @leave_eq (system.renote note) thread there entered.2 otherwise]
    simp only [perform, leave?, noted, still, ↓reduceIte, Option.elim_some]
  | attach thread snapshot => exact attach_renote note system thread snapshot
  | detach thread => exact detach_renote note system thread
  | acquire thread pool limit name =>
    cases had : system.acquire pool limit with
    | mk result granted =>
      simp only [perform, acquireFor, acquire_renote, had]
      rcases result with payload | _ | lease
      · rfl
      · rfl
      · exact keepLease_renote note granted thread name lease
  | dropLease thread name => exact withLease_renote note system thread name release fun _ _ => rfl
  | passLease thread other name =>
    exact withLease_renote note system thread name (·.keepLease other name) fun system lease =>
      keepLease_renote note system other name lease
  | dispatch thread name =>
    refine withLease_renote note system thread name (fun system lease => (system.dispatchJob thread lease).2) ?_
    exact fun system lease => dispatchJob_renote note system thread lease
  | free thread => exact withCurrentWork_renote note system thread vacate (vacate_renote note system)
  | endLogic thread outcome =>
    refine withCurrentWork_renote note system thread
      (fun system work => (system.endProgram thread).recordOutcome work outcome (system.unwindsOn work outcome))
      fun work => ?_
    rw [endProgram_renote, recordOutcome_renote]
    rfl
  | endJob thread =>
    refine withCurrentWork_renote note system thread (fun system => (system.endProgram thread).vacateAtEnd)
      fun work => ?_
    rw [endProgram_renote, vacateAtEnd, vacate_renote]
    rfl
  | vacate thread =>
    refine withCurrentWork_renote note system thread vacateAtEnd fun work => ?_
    rw [vacateAtEnd, vacate_renote]
    rfl
  | complete thread =>
    refine withCurrentWork_renote note system thread
      (fun system work => (system.completeWork work).popActivation thread) fun work => ?_
    rw [completeWork_renote, popActivation_renote]
  | next station =>
    refine withHelper_renote note system station (fun system helper => (system.helperNext helper station).2) ?_
    exact fun helper => helperNext_renote note system helper station
  | die station =>
    refine withHelper_renote note system station (fun system helper => (system.helperDies helper station).2) ?_
    exact fun helper => helperDies_renote note system helper station
  | dropPool pool => exact shutdown_renote note system pool
  | start thread name joined =>
    simp only [perform, startThread, activation_renote]
    exact @addThread_renote note system { name, activations := [{
      within := if joined then (system.activation thread).within else none }] } rfl
  | finish thread =>
    exact @modifyThread_renote note system ({ · with stack := {}, activations := [] }) (fun _ => rfl) thread
  | reduce | makePool | bar | makeRoot | makeFactory | reroute | register | configure => rfl

/-- Where nobody leaves a context in a way that is noted otherwise, there is nothing to change. -/
theorem renote_eq_self
    (same : ∀ activation ∈ system.crew, ∀ target, activation.leaving = some target →
      note.leaving target = target)
    (kept : note.cells system.cells = system.cells) : system.renote note = system := by
  have one (activation : Activation) (member : activation ∈ system.crew) : activation.renote note = activation := by
    rw [Activation.renote]
    cases leaving : activation.leaving with
    | none => rw [Option.map_none, ← leaving]
    | some target => rw [Option.map_some, same activation member target leaving, ← leaving]
  have each (t : Thread) (member : t ∈ system.threads) : t.renote note = t := by
    have chain : t.activations.map (·.renote note) = t.activations :=
      (List.map_congr_left fun activation inside =>
        one activation (mem_crew.mpr ⟨t, member, inside⟩)).trans (List.map_id _)
    rw [Thread.renote, chain]
  have all : system.threads.map (·.renote note) = system.threads := (List.map_congr_left each).trans (List.map_id _)
  rw [renote, all, kept]

/-! ## Runs -/

/-- A scope that is being left, or has been, is not left by anyone else. -/
theorem not_beginLeave {scope : ScopeId} (sound : system.picture.Sound events)
    (leaving : (system.scope scope).state ≠ .accepting) (enabled : system.Enabled action) :
    action ≠ .beginExit thread scope ∧ action ≠ .beginDrop thread scope := by
  have impossible (running : system.isRunning thread = true) (owns : system.owns thread scope = true) : False := by
    obtain ⟨activation, others, top, busy⟩ := innermost_of_isRunning running
    exact leaving (sound.tenancy.accepting top.crew_eq busy.staying (top.contexts_pos owns)).1
  constructor <;> rintro rfl <;> exact impossible enabled.1 enabled.2

end System

theorem ScopeState.Moves.accepting {before : ScopeState} (moves : before.Moves accepting) : before = accepting := by
  cases moves
  rfl

/-- As if the context of a scope were dropped. -/
def droppingOf (scope : ScopeId) : Renoting where
  leaving target := if target.1 = scope then (scope, .drop) else target

/-- Once a context is being left, a run takes the same course whether it is noted to be exited or to be dropped. -/
theorem Reaches.performAll_dropping {setting : Setting.State} {past : List Moment} {system : System} {scope : ScopeId}
    (reached : Reaches (.initial setting) past system) (leaving : (system.scope scope).state ≠ .accepting)
    {actions : List Action} (allowed : system.allows actions = true) :
    (system.renote (droppingOf scope)).allows actions = true ∧
      (system.renote (droppingOf scope)).performAll actions =
        (system.performAll actions).renote (droppingOf scope) := by
  have keeps (target : ScopeId × Departure) : ((droppingOf scope).leaving target).1 = target.1 := by
    dsimp only [droppingOf]
    split_ifs with here
    · exact here.symm
    · rfl
  induction actions generalizing system past with
  | nil => exact ⟨rfl, rfl⟩
  | cons action rest ih =>
    simp only [System.allows, Bool.and_eq_true, decide_eq_true_eq] at allowed ⊢
    obtain ⟨enabled, allowed⟩ := allowed
    have step := System.perform_renote keeps reached.sound enabled fun thread other departure begins => by
      refine if_neg fun here : other = scope => ?_
      subst here
      have none_begins := @System.not_beginLeave system thread _ _ other reached.sound leaving enabled
      exact begins.elim none_begins.1 none_begins.2
    have moves := (System.step_perform reached.sound enabled).moves reached.sound.tenancy scope
    have still : ((system.perform action).scope scope).state ≠ .accepting := fun accepting => by
      rw [show ((system.perform action).picture.scope scope).state = .accepting from accepting] at moves
      exact leaving moves.accepting
    obtain ⟨goes_on, same⟩ := ih (reached.step enabled) still allowed
    refine ⟨⟨(System.enabled_renote keeps).mpr enabled, ?_⟩, ?_⟩
    · rw [step]
      exact goes_on
    · change (System.perform _ action).performAll rest = _
      rw [step]
      exact same

end ScopedWork
