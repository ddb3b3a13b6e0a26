import ScopedWork.Proofs.Conduct
import ScopedWork.Proofs.Placing

/-! # What a thread shows

A thread shows its stack and the chain of what it runs. Here is what each operation of a process leaves of
that: an operation on one thread is not seen on another, and a thread that is just started shows nothing.
-/

namespace ScopedWork

def Stack.IsTop (stack : Stack) (scope : ScopeId) : Prop :=
  stack.frames.head? = some (.scope scope)

instance (stack : Stack) (scope : ScopeId) : Decidable (stack.IsTop scope) :=
  inferInstanceAs (Decidable (_ = _))

/-- The place of a context on a stack as an exit notes it. -/
def Stack.refusal (stack : Stack) (scope : ScopeId) : Option Failure.StateError :=
  if stack.IsTop scope then none else some (.notCurrent "ConcurrentScope")

theorem Stack.ensureCurrent_eq (stack : Stack) (scope : ScopeId) : stack.ensureCurrent (.scope scope) =
    if stack.IsTop scope then .ok () else .error (.notCurrent "ConcurrentScope") := by
  obtain ⟨frames⟩ := stack
  cases frames with
  | nil => rfl
  | cons top rest =>
    have here : ({ frames := top :: rest } : Stack).IsTop scope ↔ top = .scope scope := Option.some_inj
    simp only [ensureCurrent, isCurrent, decide_eq_true_eq, here]
    rfl

theorem Stack.refusal_eq (stack : Stack) (scope : ScopeId) :
    stack.refusal scope = match stack.ensureCurrent (.scope scope) with
      | .ok () => none
      | .error error => some error := by
  rw [refusal, ensureCurrent_eq]
  split_ifs <;> rfl

namespace System

variable {system after : System} {thread id : ThreadId} {activation : Activation} {outer : List Activation}
  {lease : Lease}

theorem active_of_chain (chain : (system.thread thread).activations = activation :: outer) :
    (system.thread thread).activations ≠ [] := by
  rw [chain]
  exact List.cons_ne_nil _ _

theorem activation_of_chain (chain : (system.thread thread).activations = activation :: outer) :
    system.activation thread = activation := by
  rw [System.activation, chain, List.headD_cons]

/-- What a thread runs innermost is the first of what it runs. -/
theorem Innermost.eq_of_chain {first : Activation} {others : Multiset Activation}
    (top : system.Innermost thread first others) (chain : (system.thread thread).activations = activation :: outer) :
    activation = first :=
  (activation_of_chain chain).symm.trans top.activation_eq

theorem chain_of_isRunning (running : system.isRunning thread = true) :
    ∃ activation outer, (system.thread thread).activations = activation :: outer := by
  obtain ⟨activation, others, top, -⟩ := exists_innermost_of_isRunning running
  exact ⟨activation, top.chain⟩

theorem thread_of_modify {change : Thread → Thread} (active : (system.thread thread).activations ≠ [])
    (threads : after.threads = system.threads.modify thread change) (id : ThreadId) :
    after.thread id = if id = thread then change (system.thread id) else system.thread id := by
  rw [System.thread, threads, read_modify]
  simp only [lt_of_activations active, and_true]
  rfl

/-- Threads that are added have run nothing before, and have no stack. -/
theorem view_of_not_lt (beyond : ¬ id < system.threads.length) :
    system.stack id = {} ∧ (system.thread id).activations = [] := by
  rw [System.stack, thread_of_not_lt beyond]
  exact ⟨rfl, rfl⟩

/-- A lease may cost a new thread, but that has nothing to run yet. -/
theorem view_acquire (system : System) (pool : PoolId) (limit : Nat) (id : ThreadId) :
    (system.acquire pool limit).2.stack id = system.stack id ∧
      ((system.acquire pool limit).2.thread id).activations = (system.thread id).activations := by
  rcases system.acquire_shapes pool limit with
    missed | ⟨payload, -, -, missed⟩ | ⟨lease, -, -, -, ⟨-, had⟩ | ⟨-, name, had⟩⟩
  · rw [missed]
    exact ⟨rfl, rfl⟩
  · rw [missed]
    exact ⟨rfl, rfl⟩
  · rw [had]
    exact ⟨rfl, rfl⟩
  · rw [had]
    dsimp only
    rw [System.stack, thread_addThread]
    split_ifs with new
    · obtain ⟨stack, activations⟩ := @view_of_not_lt system id (Nat.not_lt.mpr (Nat.le_of_eq new.symm))
      rw [stack, activations]
      exact ⟨rfl, rfl⟩
    · exact ⟨rfl, rfl⟩

theorem threads_enterIn (system : System) (thread : ThreadId) (parent : ScopeId) (tenure : Tenure) :
    (system.enterIn thread parent tenure).2.threads = system.threads.modify thread fun t => { t with
      stack := t.stack.push (.scope system.scopes.length)
      activations := t.activations.modifyHead fun a =>
        { a with handles := { scope := system.scopes.length, tenure } :: a.handles } } := by
  simp only [enterIn, addScope, modifyActivation, modifyThread, List.modify_modify_eq]
  rfl

theorem beginExit_eq (system : System) (thread : ThreadId) (scope : ScopeId) :
    system.beginExit thread scope = system.beginLeave thread scope (.exit ((system.stack thread).refusal scope)) := by
  rw [Stack.refusal_eq]
  rfl

theorem threads_left (system : System) (thread : ThreadId) (scope : ScopeId) :
    (system.left thread scope).threads = system.threads.modify thread fun t => { t with
      stack := t.stack.remove (.scope scope)
      activations := t.activations.modifyHead fun a =>
        { a with handles := a.handles.filter (·.scope ≠ scope), leaving := none } } := by
  simp only [left, unstack, closeScope, forgetHandle, modifyScope, modifyActivation, modifyThread,
    List.modify_modify_eq]
  rfl

theorem threads_attach (system : System) (thread : ThreadId) (snapshot : Stack) :
    (system.attach thread snapshot).threads = system.threads.modify thread fun t => { t with
      stack := snapshot
      activations := t.activations.modifyHead fun a => { a with saved := system.stack thread :: a.saved } } := by
  simp only [attach, modifyActivation, setStack, modifyThread, List.modify_modify_eq]
  rfl

theorem threads_detach {stack : Stack} {older : List Stack}
    (saved : (system.activation thread).saved = stack :: older) :
    (system.detach thread).threads = system.threads.modify thread fun t => { t with
      stack, activations := t.activations.modifyHead ({ · with saved := older }) } := by
  simp only [detach, saved, modifyActivation, setStack, modifyThread, List.modify_modify_eq]
  rfl

theorem thread_endProgram (chain : (system.thread thread).activations = activation :: outer) (id : ThreadId) :
    (system.endProgram thread).thread id = if id = thread then { system.thread id with
      stack := activation.saved.getLast?.getD (system.stack id)
      activations := { activation with saved := [] } :: outer }
    else system.thread id := by
  rw [endProgram, activation_of_chain chain]
  cases last : activation.saved.getLast? with
  | none =>
    have empty : activation.saved = [] := List.getLast?_eq_none_iff.mp last
    split_ifs with same
    · subst same
      rw [← empty, ← chain]
      rfl
    · rfl
  | some stack =>
    rw [thread_of_modify (active_of_chain chain) (by
      simp only [modifyActivation, setStack, modifyThread, List.modify_modify_eq]
      rfl)]
    split_ifs with same
    · subst same
      simp only [Function.comp_apply, chain, List.modifyHead_cons, Option.getD_some]
    · rfl

/-- What a thread begins does not depend on the pools. -/
private theorem threads_beginWork (pools : List (Pool WorkId)) (worker : ThreadId) (work : WorkId)
    (snapshot : Option Stack) : (({ system with pools } : System).beginWork worker work snapshot).threads =
      (system.beginWork worker work snapshot).threads := by
  rw [beginWork_eq, beginWork_eq]
  rfl

theorem works_beginWork (thread : ThreadId) (work : WorkId) (snapshot : Option Stack) :
    (system.beginWork thread work snapshot).works = system.works.modify work fun w =>
      { w with phase := .running, snapshot := none, runs := thread :: w.runs } := by
  cases snapshot <;> rfl

/-- What becomes of a work that is sent through a lease: nobody begins it yet, or the one who sends it does,
or an idle helper. -/
theorem handOver_cases (system : System) (thread : ThreadId) (lease : Lease) (work : WorkId) (snapshot : Option Stack) :
    let sent := (system.handOver thread lease work snapshot).2
    sent.threads = system.threads ∨
      sent.threads = (system.beginWork thread work snapshot).threads ∧
        (work < system.works.length → (sent.work work).placement = .returned) ∨
      ∃ helper, (system.station lease).helper = .idle helper ∧
        sent.threads = (system.beginWork helper work snapshot).threads ∧
        (work < system.works.length → (sent.work work).placement = .helper helper) := by
  have placed (system : System) (worker : ThreadId) (placement : Placement) (bound : work < system.works.length) :
      (((system.beginWork worker work snapshot).modifyWork work ({ · with placement })).work work).placement =
        placement := by
    rw [work_modifyWork, if_pos]
    refine ⟨rfl, ?_⟩
    rw [beginWork_eq]
    change _ < (system.works.modify _ _).length
    rwa [List.length_modify]
  simp only [handOver]
  split
  · refine .inr (.inl ⟨threads_beginWork _ thread work snapshot, fun bound => ?_⟩)
    refine placed _ thread _ ?_
    exact bound
  · rename_i helper begins
    refine .inr (.inr ⟨helper, ?_, threads_beginWork _ helper work snapshot, fun bound => ?_⟩)
    · simp only [Pool.dispatch] at begins
      split_ifs at begins
      split at begins <;> simp_all [station]
    · refine placed _ helper _ ?_
      exact bound
  · exact .inl rfl
  · exact .inl rfl

/-- What a helper that has ended a work does to its thread. -/
theorem helperNext_cases {helper : ThreadId} {job : WorkId} (busy : (system.station lease).helper = .busy helper job) :
    let turned := (system.helperNext helper lease).2
    turned.threads = system.threads ∨ turned.threads = (system.retire helper).threads ∨
      ∃ work, (system.station lease).waiting = some work ∧
        turned.threads = (system.beginWork helper work (system.work work).snapshot).threads ∧
        (work < system.works.length → (turned.work work).placement = .helper helper) := by
  change ((system.pool lease.pool).slot lease.slot).helper = _ at busy
  cases waiting : ((system.pool lease.pool).slot lease.slot).waiting with
  | none =>
    simp only [helperNext, Pool.nextJob, busy, waiting]
    split
    · exact .inr (.inl rfl)
    · exact .inl rfl
    · exact .inl rfl
  | some work =>
    simp only [helperNext, Pool.nextJob, busy, waiting]
    refine .inr (.inr ⟨work, waiting, ?_, fun bound => ?_⟩)
    · exact threads_beginWork _ helper work (system.work work).snapshot
    · rw [work_modifyWork, if_pos]
      refine ⟨rfl, ?_⟩
      rw [beginWork_eq]
      change _ < (system.works.modify _ _).length
      rwa [List.length_modify]

theorem threads_vacate (work : WorkId) : (system.vacate work).threads = system.threads := by
  simp only [vacate]
  split <;> rfl

end System

end ScopedWork
