import ScopedWork.Proofs.Renoting
import ScopedWork.Proofs.Waiting

/-! # What it is to leave a context

A context may be left while it is the current one, from below others, or off a stack on which it is not at all,
and its logics may end in any order while the thread waits for them. Afterwards the scope is closed and off the
stack, and an exit has reported the failure recorded first and whether the context was current. To drop the
context leads to the same process, but reports nothing.
-/

namespace ScopedWork

open Failure (ContextError StateError TaskError)

/-- What an exit reports of a context that is current or is not, given the failures of its logics in the order in
which they were recorded. -/
def exitReport (current : Prop) [Decidable current] (failures : List TaskError) : Option ContextError :=
  if current then failures.head?.map .task
  else some (match failures.head? with
    | none => .state (.notCurrent "ConcurrentScope")
    | some failure => .abandoned (.notCurrent "ConcurrentScope") failure)

namespace System

/-- A thread had a certain stack, and has waited to exit or to drop the context of a scope of which certain
failures were recorded. This is what comes of it. -/
structure Departed (stack : Stack) (recorded : List TaskError) (exiting dropping : System) (thread : ThreadId)
    (scope : ScopeId) : Prop where
  /-- The exit returns, with the failure that was recorded first. -/
  exit : exiting.leave? thread = some (exitReport (stack.IsTop scope) recorded, exiting.perform (.leave thread))
  /-- The drop returns nothing, and the process is the same. -/
  drop : dropping.leave? thread = some (none, exiting.perform (.leave thread))
  frames : ((exiting.perform (.leave thread)).stack thread).frames = stack.frames.erase (.scope scope)
  /-- Besides that no stack has changed. -/
  others : ∀ other ≠ thread, (exiting.perform (.leave thread)).stack other = exiting.stack other
  closed : (exiting.perform (.leave thread)).scope scope =
    { exiting.scope scope with state := .closed, firstFailure := none }
  completed : (exiting.scope scope).completed = (exiting.scope scope).dispatched
  /-- Every failed logic of the scope has had its failure recorded, and all of them are over. -/
  failed : (exiting.works.countP fun work => work.isOf scope && work.failed) = recorded.length
  ended : ∀ work, (exiting.work work).kind = .logic scope → (exiting.work work).phase = .over
  /-- A context that was current when the exit began can be popped after the join. -/
  popped : stack.IsTop scope → ∃ rest, (exiting.stack thread).pop (.scope scope) = .ok rest
  /-- An exit never finds that the stack is empty. -/
  nonempty : ∀ capability, exitReport (stack.IsTop scope) recorded ≠ some (.state (.empty capability))
  /-- The drop that ends an exit does nothing. -/
  again : ∀ refused, (exiting.exitScope thread scope refused).2.dropScope thread scope =
    (exiting.exitScope thread scope refused).2

variable {system : System} {events : List Event} {thread : ThreadId} {scope : ScopeId}

/-- What a thread finds that waits to leave the context of a scope whose logics are over. -/
theorem leave_of_settled (sound : system.picture.Sound events) {departure : Departure}
    (waits : (system.activation thread).leaving = some (scope, departure))
    (settled : (system.scope scope).isSettled = true) :
    system.perform (.leave thread) = system.left thread scope ∧ (system.scope scope).state ≠ .closed ∧
      scope < system.scopes.length ∧ (system.perform (.leave thread)).picture.Sound
        (Moment.event ⟨system, .leave thread⟩ :: events) := by
  have enabled : system.Enabled (.leave thread) := by
    change (system.leave? thread).isSome = true
    rw [isSome_leave?, waits]
    exact settled
  obtain ⟨activation, others, target, _, top, leaving, -, -, entered, performed⟩ := leave_cases sound enabled
  rw [top.activation_eq, leaving] at waits
  obtain ⟨rfl, -⟩ := Prod.mk.inj (Option.some.inj waits)
  have bound := lt_of_isEntered entered
  rw [Scope.isEntered, Bool.and_eq_true, bne_iff_ne] at entered
  exact ⟨performed, entered.2, bound, sound.step (step_perform sound enabled)⟩

theorem scope_left (bound : scope < system.scopes.length) :
    (system.left thread scope).scope scope = { system.scope scope with state := .closed, firstFailure := none } := by
  change ((system.modifyScope scope fun record => record.close.2).scope scope) = _
  rw [scope_modifyScope, if_pos ⟨rfl, bound⟩]
  rfl

theorem stack_left (active : (system.thread thread).activations ≠ []) (other : ThreadId) :
    (system.left thread scope).stack other =
      if other = thread then (system.stack thread).remove (.scope scope) else system.stack other := by
  rw [System.stack, thread_of_modify active (threads_left system thread scope)]
  split_ifs with same
  · rw [same]
    rfl
  · rfl

/-- Of the logics of a scope that are over, as many have failed as failures have been recorded. -/
theorem failed_of_settled {setting : Setting.State} {history : List Moment}
    (reached : Reaches (.initial setting) history system) (unclosed : (system.scope scope).state ≠ .closed)
    (ended : ∀ work, (system.work work).kind = .logic scope → (system.work work).phase = .over) :
    (system.works.countP fun work => work.isOf scope && work.failed) = (failures history scope).length := by
  have ledger : (system.scope scope).Balanced scope system.works (history.map Moment.event) :=
    reached.sound.ledger scope
  have counted := ledger.failures
  rw [ledger.handed unclosed, Nat.add_zero, (reached.firstFailure_eq unclosed).2] at counted
  rw [← counted]
  refine List.countP_congr fun work member => ?_
  obtain ⟨id, present⟩ := List.mem_iff_getElem?.mp member
  have found : system.work id = work := by rw [System.work, present, Option.getD_some]
  by_cases own : work.isOf scope = true
  · have past := ended id (by rw [found]; exact Work.isOf_iff.mp own)
    rw [found] at past
    rw [Work.hasFailed, past]
    rfl
  · rw [Bool.not_eq_true] at own
    rw [own]
    rfl

/-- Where the context of a scope is not being left, there is nothing to note about it. -/
theorem renote_droppingOf (sound : system.picture.Sound events) (kept : (system.scope scope).state ≠ .draining) :
    system.renote (droppingOf scope) = system := by
  refine renote_eq_self (fun activation member target leaving => if_neg ?_) rfl
  rintro rfl
  obtain ⟨handle, has, same⟩ := Activation.contexts_pos.mp
    (sound.tenancy.leaving activation member target.1 target.2 leaving)
  have state := sound.tenancy.state activation member handle has
  rw [same, Activation.leaves, leaving, Option.any_some, beq_self_eq_true, if_pos rfl] at state
  exact kept state

/-- Once a context has been exited, its scope is closed. -/
theorem state_exitScope (bound : scope < system.scopes.length) (refused : Option StateError) :
    ((system.exitScope thread scope refused).2.scope scope).state = .closed := by
  have closes (system : System) (bound : scope < system.scopes.length) :
      ((system.closeScope scope).2.scope scope).state = .closed := by
    change ((system.modifyScope scope fun record => record.close.2).scope scope).state = .closed
    rw [scope_modifyScope, if_pos ⟨rfl, bound⟩]
    rfl
  cases refused with
  | some error =>
    simp only [exitScope]
    have closed := closes (system.unstack thread scope) bound
    split <;> rename_i taken <;> rwa [taken] at closed
  | none =>
    simp only [exitScope]
    split
    · simp only [dropScope]
      split_ifs with closed
      · exact closed
      · exact closes (system.unstack thread scope) bound
    · rename_i stack _
      exact closes (system.setStack thread stack) bound

/-- What an exit comes to whose logics are over, if the stack is still the one it has found. -/
theorem leave?_exit
    (waits : (system.activation thread).leaving = some (scope, .exit ((system.stack thread).refusal scope)))
    (settled : (system.scope scope).isSettled = true) :
    system.leave? thread = some (exitReport ((system.stack thread).IsTop scope)
      (system.scope scope).firstFailure.toList, system.left thread scope) := by
  rw [leave?, waits]
  dsimp only
  rw [if_pos settled, leave_exit (Stack.refusal_eq _ scope), Stack.ensureCurrent_eq, exitReport]
  split_ifs
  · cases (system.scope scope).firstFailure <;> rfl
  · cases (system.scope scope).firstFailure <;> rfl

theorem leave?_drop (waits : (system.activation thread).leaving = some (scope, .drop))
    (settled : (system.scope scope).isSettled = true) (unclosed : (system.scope scope).state ≠ .closed) :
    system.leave? thread = some (none, system.left thread scope) := by
  rw [leave?, waits]
  dsimp only
  rw [if_pos settled, leave_drop unclosed]

/-- The processes in which the context of a scope is exited and is dropped, while the same happens besides. -/
theorem dropping_eq {setting : Setting.State} {past : List Moment} (reached : Reaches (.initial setting) past system)
    (owned : system.Enabled (.beginExit thread scope)) {meanwhile : List Action}
    (allowed : (system.perform (.beginExit thread scope)).allows meanwhile = true) :
    (system.perform (.beginDrop thread scope)).performAll meanwhile =
      ((system.perform (.beginExit thread scope)).performAll meanwhile).renote (droppingOf scope) := by
  obtain ⟨activation, others, top, busy⟩ := innermost_of_isRunning owned.1
  have held := top.contexts_pos owned.2
  obtain ⟨entered, -⟩ := reached.sound.tenancy.alone top.crew_eq held
  have accepting : (system.scope scope).state = .accepting :=
    (reached.sound.tenancy.accepting top.crew_eq busy.staying held).1
  have begun : (system.perform (.beginExit thread scope)).renote (droppingOf scope) =
      system.perform (.beginDrop thread scope) := by
    have noted := @beginLeave_renote (droppingOf scope) scope (.exit ((system.stack thread).refusal scope)) .drop
      (if_pos rfl) system thread
    rw [renote_droppingOf reached.sound fun draining => ScopeState.noConfusion (accepting.symm.trans draining)] at noted
    exact (congrArg (renote (droppingOf scope)) (beginExit_eq system thread scope)).trans noted.symm
  have leaving : ((system.perform (.beginExit thread scope)).scope scope).state ≠ .accepting := by
    rw [perform, beginExit_eq, scope_beginLeave (lt_of_isEntered entered) accepting]
    exact fun same => ScopeState.noConfusion same
  rw [← begun]
  exact ((reached.step owned).performAll_dropping leaving allowed).2

end System

/-- The actions of a run are those that were to be taken. -/
theorem System.mem_moments {actions : List Action} {system : System} {history : List Moment} {moment : Moment}
    (member : moment ∈ system.moments history actions) : moment ∈ history ∨ moment.action ∈ actions := by
  induction actions generalizing system history with
  | nil => exact .inl member
  | cons action rest ih =>
    rcases ih member with before | later
    · rcases List.mem_cons.mp before with rfl | before
      · exact .inr List.mem_cons_self
      · exact .inl before
    · exact .inr (List.mem_cons_of_mem _ later)

/-- A thread that waits to exit a context finds its stack as it was, and its note as well. -/
theorem Reaches.waits_exit {setting : Setting.State} {past : List Moment} {before : System} {thread : ThreadId}
    {scope : ScopeId} (reached : Reaches (.initial setting) past before)
    (owned : before.Enabled (.beginExit thread scope)) {meanwhile : List Action}
    (allowed : (before.perform (.beginExit thread scope)).allows meanwhile = true)
    (waits : .leave thread ∉ meanwhile) :
    let exiting := (before.perform (.beginExit thread scope)).performAll meanwhile
    exiting.stack thread = before.stack thread ∧ (exiting.thread thread).activations ≠ [] ∧
      (exiting.activation thread).leaving = some (scope, .exit ((exiting.stack thread).refusal scope)) := by
  intro exiting
  obtain ⟨activation, outer, chain⟩ := System.chain_of_isRunning owned.1
  let waiting : Activation := { activation with leaving := some (scope, .exit ((before.stack thread).refusal scope)) }
  have begun : (before.perform (.beginExit thread scope)).thread thread =
      { before.thread thread with activations := waiting :: outer } := by
    rw [System.perform, System.beginExit_eq, System.thread_beginLeave (System.active_of_chain chain), chain]
    rfl
  have noted : ((before.perform (.beginExit thread scope)).activation thread).leaving =
      some (scope, .exit ((before.stack thread).refusal scope)) := by
    rw [System.activation, begun]
    rfl
  have unmoved : (before.perform (.beginExit thread scope)).stack thread = before.stack thread :=
    (congrArg Thread.stack begun).trans rfl
  have waited := (reached.step owned).waiting (Reaches.start.performAll allowed) noted fun moment member same => by
    rcases System.mem_moments member with none_before | taken
    · exact absurd none_before List.not_mem_nil
    · exact waits (same ▸ taken)
  have stack : exiting.stack thread = before.stack thread := waited.1.trans unmoved
  refine ⟨stack, ?_, ?_⟩
  · rw [waited.2, begun]
    exact List.cons_ne_nil _ _
  · rw [stack, System.activation, waited.2]
    exact noted

/-- What the exit of a context reports is how its place on the stack and the failures of its logics want it. -/
theorem Reaches.leave?_eq {setting : Setting.State} {history : List Moment} {system : System} {thread : ThreadId}
    {scope : ScopeId} {refused : Option StateError} (reached : Reaches (.initial setting) history system)
    (waits : (system.activation thread).leaving = some (scope, .exit refused))
    (settled : (system.scope scope).isSettled = true) :
    system.leave? thread = some
      (exitReport ((system.stack thread).IsTop scope) (failures history scope), system.perform (.leave thread)) := by
  obtain ⟨performed, unclosed, -, -⟩ := System.leave_of_settled reached.sound waits settled
  rw [reached.refusal_eq waits] at waits
  rw [System.leave?_exit waits settled, performed, exitReport, exitReport, (reached.firstFailure_eq unclosed).1]
  cases (failures history scope).head? <;> rfl

/-- Whatever the stack of a thread, wherever a context of its program is on it, and whatever else happens until the
logics of the scope are over: the exit of the context returns, reports what it is to report, and leads to the same
process as to drop the context would have. -/
theorem departed {setting : Setting.State} {past : List Moment} {before : System} {thread : ThreadId} {scope : ScopeId}
    (reached : Reaches (.initial setting) past before) (owned : before.Enabled (.beginExit thread scope))
    {meanwhile : List Action} (allowed : (before.perform (.beginExit thread scope)).allows meanwhile = true)
    (waits : .leave thread ∉ meanwhile)
    (settled : (((before.perform (.beginExit thread scope)).performAll meanwhile).scope scope).isSettled = true) :
    let exits := before.perform (.beginExit thread scope)
    let history := exits.moments (⟨before, .beginExit thread scope⟩ :: past) meanwhile
    System.Departed (before.stack thread) (failures history scope) (exits.performAll meanwhile)
      ((before.perform (.beginDrop thread scope)).performAll meanwhile) thread scope := by
  intro exits history
  let exiting := exits.performAll meanwhile
  have here : Reaches (.initial setting) history exiting := (reached.step owned).performAll allowed
  obtain ⟨stack, active, leaving⟩ := reached.waits_exit owned allowed waits
  obtain ⟨performed, unclosed, bound, sound⟩ := System.leave_of_settled here.sound leaving settled
  have closed := @System.scope_left exiting thread scope bound
  have shut : ((exiting.perform (.leave thread)).scope scope).state = .closed := by rw [performed, closed]
  have after_leave := @System.stack_left exiting thread scope active
  have ended : ∀ work, (exiting.work work).kind = .logic scope → (exiting.work work).phase = .over := by
    have after := System.over_of_closed sound shut
    rw [performed] at after
    exact after
  have ledger : (exiting.scope scope).Balanced scope exiting.works (history.map Moment.event) := here.sound.ledger scope
  have dropped := System.dropping_eq reached owned allowed
  constructor
  case exit =>
    have exited := here.leave?_eq leaving settled
    rwa [stack] at exited
  case drop =>
    have noted : ((exiting.renote (droppingOf scope)).activation thread).leaving = some (scope, .drop) := by
      rw [System.activation_renote, Activation.renote, leaving]
      exact congrArg some (if_pos rfl)
    rw [dropped, System.leave?_drop noted settled unclosed, System.left_renote, performed]
    have sound := sound
    rw [performed] at sound shut
    rw [System.renote_droppingOf sound fun draining => ScopeState.noConfusion (shut.symm.trans draining)]
  case frames =>
    rw [performed, after_leave, if_pos rfl, stack, Stack.remove_frames]
  case others =>
    intro other elsewhere
    rw [performed, after_leave, if_neg elsewhere]
  case closed =>
    rw [performed, closed]
  case completed =>
    rw [Scope.isSettled, decide_eq_true_eq] at settled
    exact Nat.le_antisymm ledger.completed_le settled
  case failed => exact System.failed_of_settled here unclosed ended
  case ended => exact ended
  case popped =>
    intro top
    rw [stack]
    exact Stack.pop_of_ensureCurrent (by rw [Stack.ensureCurrent_eq, if_pos top])
  case nonempty =>
    intro capability empty
    cases first : (failures history scope).head? <;> rw [exitReport, first] at empty <;> split_ifs at empty <;>
      cases empty
  case again =>
    intro refused
    rw [System.dropScope, if_pos (System.state_exitScope bound refused)]

/-- A context is exited from below another while its one logic fails. -/
theorem departed_belowAnother :
    let setting : Setting.State := { hardware := 4 }
    let opening : List Action := [.makePool 1 {}, .makeRoot 0 1, .enterIn 0 0 (.owned "outer"), .submit 0 1,
      .enter 0 (.owned "inner")]
    let before := (System.initial setting).performAll opening
    let meanwhile : List Action := [.endLogic 1 (.error (.failed (.text "disk full"))), .vacate 1, .complete 1]
    let exits := before.perform (.beginExit 0 1)
    let history := exits.moments (⟨before, .beginExit 0 1⟩ :: (System.initial setting).moments [] opening) meanwhile
    before.stack 0 = { frames := [.scope 2, .scope 1] } ∧ failures history 1 = [.failed (.text "disk full")] ∧
      System.Departed (before.stack 0) (failures history 1) (exits.performAll meanwhile)
        ((before.perform (.beginDrop 0 1)).performAll meanwhile) 0 1 := by
  intro setting opening before meanwhile exits history
  have reached : Reaches (.initial setting) ((System.initial setting).moments [] opening) before :=
    Reaches.start.performAll (by decide)
  exact ⟨by decide, by decide, departed reached (by decide) (by decide) (by simp [meanwhile]) (by decide)⟩

end ScopedWork
