import Mathlib.Algebra.Order.Group.Multiset
import ScopedWork.Proofs.Parts

/-! # What the threads of a process run

The crew of a process is all that its threads are in the course of running: one activation for each
program, whichever thread has it and however deep it sits there. Every step changes the crew at the
innermost activation of one thread, puts one activation on top or takes one away. What holds of the
crew therefore says nothing of threads, and no step has to say which thread it leaves alone.
-/

namespace ScopedWork

/-- What a thread runs when it begins a work. -/
def begun (work : WorkId) (saved : List Stack) : Activation :=
  { role := .work work, within := some work, saved }

namespace System

variable {system : System}

/-- All that the threads are in the course of running. -/
def crew (system : System) : Multiset Activation :=
  ((system.threads.map Thread.activations).flatten : List Activation)

/-- The innermost activation of a thread, and what the threads run besides. -/
structure Innermost (system : System) (thread : ThreadId) (activation : Activation)
    (others : Multiset Activation) : Prop where
  chain : ∃ outer, (system.thread thread).activations = activation :: outer
  crew_eq : system.crew = activation ::ₘ others

/-! ## Threads that a step leaves alone -/

theorem crew_of_threads {after : System} (same : after.threads = system.threads) :
    after.crew = system.crew := by
  rw [crew, crew, same]

theorem thread_of_threads {after : System} (same : after.threads = system.threads) (thread : ThreadId) :
    after.thread thread = system.thread thread := by
  rw [System.thread, System.thread, same]

/-- The crew is what one thread runs together with what runs elsewhere, and elsewhere does not change
with the thread. -/
private theorem crew_modifyThread {thread : ThreadId} (bound : thread < system.threads.length) :
    ∃ elsewhere : Multiset Activation,
      system.crew = ((system.thread thread).activations : Multiset Activation) + elsewhere ∧
      ∀ change : Thread → Thread, (system.modifyThread thread change).crew =
        ((change (system.thread thread)).activations : Multiset Activation) + elsewhere := by
  have present : system.threads[thread]? = some system.threads[thread] := List.getElem?_eq_getElem bound
  have read : system.thread thread = system.threads[thread] := by rw [System.thread, present, Option.getD_some]
  have cut (change : Thread → Thread) : system.threads.modify thread change =
      system.threads.take thread ++ change system.threads[thread] :: system.threads.drop (thread + 1) :=
    List.modify_eq_take_cons_drop bound
  let elsewhere : Multiset Activation := (((system.threads.take thread).map Thread.activations).flatten ++
    ((system.threads.drop (thread + 1)).map Thread.activations).flatten : List Activation)
  have changed (change : Thread → Thread) : (system.modifyThread thread change).crew =
      ((change (system.thread thread)).activations : Multiset Activation) + elsewhere := by
    simp only [crew, modifyThread, cut, List.map_append, List.map_cons, List.flatten_append, List.flatten_cons,
      ← Multiset.coe_add, read, elsewhere]
    exact add_left_comm _ _ _
  refine ⟨elsewhere, ?_, changed⟩
  have unchanged := changed id
  rwa [modifyThread, List.modify_id] at unchanged

/-- A change of a thread that keeps what it runs keeps the crew. -/
theorem crew_modifyThread_same {thread : ThreadId} {change : Thread → Thread}
    (same : ∀ t, (change t).activations = t.activations) :
    (system.modifyThread thread change).crew = system.crew := by
  by_cases bound : thread < system.threads.length
  · obtain ⟨elsewhere, before, after⟩ := crew_modifyThread bound
    rw [before, after, same]
  · exact crew_of_threads (List.modify_eq_self (Nat.le_of_not_lt bound))

@[simp] theorem crew_setStack (thread : ThreadId) (stack : Stack) :
    (system.setStack thread stack).crew = system.crew :=
  crew_modifyThread_same fun _ => rfl

@[simp] theorem crew_unstack (thread : ThreadId) (scope : ScopeId) :
    (system.unstack thread scope).crew = system.crew :=
  crew_modifyThread_same fun _ => rfl

@[simp] theorem crew_retire (helper : ThreadId) : (system.retire helper).crew = system.crew :=
  crew_setStack helper {}

theorem crew_addThread (thread : Thread) :
    (system.addThread thread).2.crew = (thread.activations : Multiset Activation) + system.crew := by
  simp only [crew, addThread, List.map_append, List.map_cons, List.map_nil, List.flatten_append,
    List.flatten_cons, List.flatten_nil, List.append_nil, ← Multiset.coe_add]
  exact add_comm _ _

/-- A thread in the list that begins something has it on top. -/
theorem crew_push {thread : ThreadId} (bound : thread < system.threads.length) (activation : Activation) :
    (system.modifyThread thread fun t => { t with activations := activation :: t.activations }).crew =
      activation ::ₘ system.crew := by
  obtain ⟨elsewhere, before, after⟩ := crew_modifyThread bound
  rw [before, after, ← Multiset.cons_coe, Multiset.cons_add]

/-! ## The innermost activation -/

theorem lt_of_activations {thread : ThreadId} (busy : (system.thread thread).activations ≠ []) :
    thread < system.threads.length := by
  by_contra beyond
  rw [System.thread, List.getElem?_eq_none (Nat.le_of_not_lt beyond), Option.getD_none] at busy
  exact busy rfl

theorem exists_innermost {thread : ThreadId} (busy : (system.thread thread).activations ≠ []) :
    ∃ activation others, system.Innermost thread activation others := by
  obtain ⟨elsewhere, before, -⟩ := crew_modifyThread (lt_of_activations busy)
  cases shape : (system.thread thread).activations with
  | nil => exact (busy shape).elim
  | cons activation outer =>
    rw [shape, ← Multiset.cons_coe, Multiset.cons_add] at before
    exact ⟨activation, _, ⟨outer, shape⟩, before⟩

/-- A thread that is in the midst of a program is not leaving a context, and the work it runs, if it
runs one, has not ended. -/
theorem exists_innermost_of_isRunning {thread : ThreadId} (running : system.isRunning thread = true) :
    ∃ activation others, system.Innermost thread activation others ∧ activation.leaving = none ∧
      ∀ work, activation.role = .work work → (system.work work).phase = .running := by
  have busy : (system.thread thread).activations ≠ [] := by
    intro idle
    simp only [isRunning, idle, Bool.false_eq_true] at running
  obtain ⟨activation, others, top⟩ := exists_innermost busy
  obtain ⟨outer, chain⟩ := top.chain
  simp only [isRunning, chain, Bool.and_eq_true, Option.isNone_iff_eq_none] at running
  refine ⟨activation, others, top, running.1, fun work role => ?_⟩
  simpa only [role, beq_iff_eq] using running.2

namespace Innermost

variable {thread : ThreadId} {activation : Activation} {others : Multiset Activation}

theorem activation_eq (top : system.Innermost thread activation others) :
    system.activation thread = activation := by
  obtain ⟨outer, chain⟩ := top.chain
  rw [System.activation, chain, List.headD_cons]

theorem bound (top : system.Innermost thread activation others) : thread < system.threads.length := by
  obtain ⟨outer, chain⟩ := top.chain
  exact lt_of_activations (by rw [chain]; exact List.cons_ne_nil _ _)

theorem mem (top : system.Innermost thread activation others) : activation ∈ system.crew := by
  rw [top.crew_eq]
  exact Multiset.mem_cons_self _ _

/-- A step that leaves the threads alone leaves the innermost activation of each in place. -/
theorem frame (top : system.Innermost thread activation others) {after : System}
    (same : after.threads = system.threads) : after.Innermost thread activation others where
  chain := by rw [thread_of_threads same]; exact top.chain
  crew_eq := by rw [crew_of_threads same]; exact top.crew_eq

theorem modify (top : system.Innermost thread activation others) (change : Activation → Activation) :
    (system.modifyActivation thread change).Innermost thread (change activation) others := by
  obtain ⟨outer, chain⟩ := top.chain
  obtain ⟨elsewhere, before, after⟩ := crew_modifyThread top.bound
  refine ⟨⟨outer, ?_⟩, ?_⟩
  · simp only [modifyActivation, thread_modifyThread, top.bound, and_self, ↓reduceIte, chain, List.modifyHead_cons]
  · have rest : (outer : Multiset Activation) + elsewhere = others := by
      rw [top.crew_eq, chain, ← Multiset.cons_coe, Multiset.cons_add] at before
      exact ((Multiset.cons_inj_right _).mp before).symm
    rw [modifyActivation, after]
    simp only [chain, List.modifyHead_cons, ← Multiset.cons_coe, Multiset.cons_add, rest]

/-- What a thread runs stays innermost when some thread changes in another respect. -/
theorem modifyThread (top : system.Innermost thread activation others) (other : ThreadId)
    (change : Thread → Thread) (same : ∀ t, (change t).activations = t.activations) :
    (system.modifyThread other change).Innermost thread activation others where
  chain := by
    rw [thread_modifyThread]
    split
    · rw [same]
      exact top.chain
    · exact top.chain
  crew_eq := by rw [crew_modifyThread_same same]; exact top.crew_eq

theorem pop (top : system.Innermost thread activation others) :
    (system.popActivation thread).crew = others := by
  obtain ⟨outer, chain⟩ := top.chain
  obtain ⟨elsewhere, before, after⟩ := crew_modifyThread top.bound
  rw [popActivation, after]
  rw [top.crew_eq, chain, ← Multiset.cons_coe, Multiset.cons_add] at before
  simpa only [chain, List.tail_cons] using ((Multiset.cons_inj_right _).mp before).symm

/-- A change of one thread leaves the innermost activation of another in place. -/
theorem chain_of_ne (top : system.Innermost thread activation others) {other : ThreadId} (ne : thread ≠ other)
    (change : Thread → Thread) :
    ∃ outer, ((system.modifyThread other change).thread thread).activations = activation :: outer := by
  rw [thread_modifyThread, if_neg fun both => ne both.1]
  exact top.chain

/-- What two threads run at the same time are two members of the crew. -/
theorem apart (top : system.Innermost thread activation others) {other : ThreadId} {second : Activation}
    {more : Multiset Activation} (next : system.Innermost other second more) (ne : thread ≠ other) :
    ∃ rest, others = second ::ₘ rest ∧ more = activation ::ₘ rest := by
  obtain ⟨outer, chain⟩ := next.chain_of_ne ne.symm fun t => { t with activations := t.activations.tail }
  have busy : ((system.popActivation thread).thread other).activations ≠ [] := by
    rw [popActivation, chain]
    exact List.cons_ne_nil _ _
  obtain ⟨found, rest, there⟩ := exists_innermost busy
  obtain ⟨outer', chain'⟩ := there.chain
  obtain ⟨rfl, -⟩ := List.cons.inj (chain.symm.trans chain')
  have split : others = second ::ₘ rest := top.pop.symm.trans there.crew_eq
  refine ⟨rest, split, ?_⟩
  have both : second ::ₘ more = second ::ₘ activation ::ₘ rest := by
    rw [← next.crew_eq, top.crew_eq, split, Multiset.cons_swap]
  exact (Multiset.cons_inj_right _).mp both

end Innermost

/-- A thread that ends with its own program runs nothing more. -/
theorem crew_endThread {thread : ThreadId} {activation : Activation} {others : Multiset Activation}
    (top : system.Innermost thread activation others)
    (alone : (system.thread thread).activations.length = 1) : (system.endThread thread).crew = others := by
  obtain ⟨outer, chain⟩ := top.chain
  obtain ⟨elsewhere, before, after⟩ := crew_modifyThread top.bound
  have last : outer = [] := by
    simpa only [chain, List.length_cons, Nat.add_eq_right, List.length_eq_zero_iff] using alone
  rw [endThread, after]
  rw [top.crew_eq, chain, last, ← Multiset.cons_coe, Multiset.cons_add] at before
  exact ((Multiset.cons_inj_right _).mp before).symm

/-! ## Works that begin and end -/

theorem crew_beginWork {thread : ThreadId} (bound : thread < system.threads.length) (work : WorkId)
    (snapshot : Option Stack) :
    ∃ saved, (system.beginWork thread work snapshot).crew = begun work saved ::ₘ system.crew := by
  have bound' : thread < (system.modifyWork work fun w =>
      { w with phase := .running, snapshot := none, runs := thread :: w.runs }).threads.length := bound
  cases snapshot with
  | none => exact ⟨[], crew_push bound' (begun work [])⟩
  | some stack =>
    refine ⟨[system.stack thread], ?_⟩
    rw [beginWork, crew_setStack]
    exact crew_push bound' (begun work [system.stack thread])

end System

end ScopedWork
