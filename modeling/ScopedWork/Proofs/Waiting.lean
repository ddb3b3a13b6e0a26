import ScopedWork.Proofs.Completion
import ScopedWork.Proofs.Fates
import ScopedWork.Proofs.Turns

/-! # While a context is being left

A thread that has begun to leave a context does nothing until its join is over, and nobody else touches its
stack or what it runs. In the meantime the logics of the scope come to their ends in any order; the scope keeps
the failure that was recorded first, whoever recorded it, until its context is left.
-/

namespace ScopedWork

/-- The failure that a moment records for a scope: a logic of the scope has panicked or returned an error. -/
def Moment.failure? (moment : Moment) (scope : ScopeId) : Option Failure.TaskError :=
  match moment.action with
  | .endLogic thread (.error failure) =>
    if moment.before.currentLogic? thread = some scope then some failure else none
  | _ => none

/-- The failures of a scope's logics, in the order in which they were recorded. -/
def failures (history : List Moment) (scope : ScopeId) : List Failure.TaskError :=
  (history.filterMap (·.failure? scope)).reverse

theorem failures_cons (moment : Moment) (history : List Moment) (scope : ScopeId) :
    failures (moment :: history) scope = failures history scope ++ (moment.failure? scope).toList := by
  rw [failures, failures, List.filterMap_cons]
  cases moment.failure? scope with
  | none => exact (List.append_nil _).symm
  | some failure => exact List.reverse_cons

namespace System

variable {system : System} {events : List Event} {action : Action} {thread : ThreadId} {scope : ScopeId}

/-- A thread that waits to leave a context is not in the midst of its program. -/
theorem not_isRunning_of_leaving {target : ScopeId × Departure}
    (waits : (system.activation thread).leaving = some target) : system.isRunning thread = false := by
  rw [Bool.eq_false_iff]
  intro running
  obtain ⟨activation, others, top, busy⟩ := innermost_of_isRunning running
  rw [top.activation_eq, busy.staying] at waits
  exact absurd waits.symm (Option.some_ne_none target)

theorem leaving_of_isRunning {activation : Activation} {outer : List Activation}
    (running : system.isRunning thread = true) (chain : (system.thread thread).activations = activation :: outer) :
    activation.leaving = none := by
  rw [← activation_of_chain chain]
  by_contra waits
  obtain ⟨target, waits⟩ := Option.ne_none_iff_exists'.mp waits
  rw [not_isRunning_of_leaving waits] at running
  exact Bool.noConfusion running

/-- A thread whose program can end is in its midst. -/
theorem isRunning_of_canEnd {kind : WorkKind → Bool} (ends : system.canEnd thread kind = true) :
    system.isRunning thread = true := by
  simp only [canEnd, Bool.and_eq_true] at ends
  exact ends.1.1

/-- Nobody touches the thread in the meantime. -/
theorem Turn.waiting {stack : Stack} {chain : List Activation} (turn : system.Turn action thread stack chain)
    (sound : system.picture.Sound events) (enabled : system.Enabled action) {target : ScopeId × Departure}
    (waits : (system.activation thread).leaving = some target) (stays : action ≠ .leave thread) :
    stack = system.stack thread ∧ chain = (system.thread thread).activations := by
  have idle (running : system.isRunning thread = true) : False := by
    rw [not_isRunning_of_leaving waits] at running
    exact Bool.noConfusion running
  have busy (none_run : (system.thread thread).activations = []) : False := by
    rw [activation, none_run] at waits
    exact absurd waits.symm (Option.some_ne_none target)
  cases turn with
  | rest => exact ⟨rfl, rfl⟩
  | trade _ _ _ running | enter _ _ _ running | wait _ _ running _ | begin _ _ _ _ running => exact (idle running).elim
  | leave _ leaves => exact absurd leaves stays
  | attach _ attaches =>
    subst attaches
    exact (idle enabled).elim
  | detach _ detaches =>
    subst detaches
    exact (idle enabled.1).elim
  | close _ ends =>
    refine (idle ?_).elim
    rcases ends with ⟨outcome, rfl⟩ | rfl
    · exact isRunning_of_canEnd enabled
    · exact isRunning_of_canEnd enabled
  | pop _ completes =>
    subst completes
    obtain ⟨activation, others, work, top, role, -, vacated⟩ := isEnding_cases enabled
    rw [top.activation_eq] at waits
    have running := sound.running.of_leaving top.mem (by rw [waits]; exact Option.some_ne_none _)
      (sound.running.own activation top.mem work role)
    rw [show (system.picture.work work).phase = .vacated from vacated] at running
    exact WorkPhase.noConfusion running
  | finish _ finishes =>
    subst finishes
    exact (idle enabled.1).elim
  | fade none_run | take none_run | start none_run => exact (busy none_run).elim

/-- Whether a thread that runs a chain under a stack has noted the right thing: only what it runs now can be leaving
a context, and an exit has noted where the context is. -/
def HasNoted (stack : Stack) : List Activation → Prop
  | [] => True
  | top :: outer => (∀ one ∈ outer, one.leaving = none) ∧
    ∀ scope refused, top.leaving = some (scope, .exit refused) → refused = stack.refusal scope

theorem HasNoted.of_staying {stack : Stack} {top : Activation} {outer : List Activation} (staying : top.leaving = none)
    (below : ∀ one ∈ outer, one.leaving = none) : HasNoted stack (top :: outer) :=
  ⟨below, fun _ _ leaving => absurd (staying.symm.trans leaving).symm (Option.some_ne_none _)⟩

/-- What a thread has noted stays right. -/
theorem Turn.hasNoted {stack : Stack} {chain : List Activation} (turn : system.Turn action thread stack chain)
    (enabled : system.Enabled action) (noted : HasNoted (system.stack thread) (system.thread thread).activations) :
    HasNoted stack chain := by
  cases turn with
  | rest => exact noted
  | trade here _ _ running | enter here _ _ running =>
    have staying := leaving_of_isRunning running here
    rw [here] at noted
    exact .of_staying staying noted.1
  | wait here _ running asked =>
    rw [here] at noted
    refine ⟨noted.1, fun scope refused leaving => ?_⟩
    obtain ⟨rfl, exits⟩ := Prod.mk.inj (Option.some.inj leaving)
    exact asked refused exits
  | leave here =>
    rw [here] at noted
    exact .of_staying rfl noted.1
  | attach here attaches =>
    subst attaches
    have staying := leaving_of_isRunning enabled here
    rw [here] at noted
    exact .of_staying staying noted.1
  | detach here detaches =>
    subst detaches
    have staying := leaving_of_isRunning enabled.1 here
    rw [here] at noted
    exact .of_staying staying noted.1
  | begin here _ _ _ running =>
    have staying := leaving_of_isRunning running here
    rw [here] at noted
    exact .of_staying rfl (List.forall_mem_cons.mpr ⟨staying, noted.1⟩)
  | close here ends =>
    have running : system.isRunning thread = true := by
      rcases ends with ⟨outcome, rfl⟩ | rfl
      · exact isRunning_of_canEnd enabled
      · exact isRunning_of_canEnd enabled
    have staying := leaving_of_isRunning running here
    rw [here] at noted
    exact .of_staying staying noted.1
  | pop here =>
    rw [here] at noted
    cases chain with
    | nil => trivial
    | cons top outer =>
      obtain ⟨staying, below⟩ := List.forall_mem_cons.mp noted.1
      exact .of_staying staying below
  | finish | fade => trivial
  | take | start => exact .of_staying rfl fun _ member => absurd member List.not_mem_nil

/-! ## The failure that is kept -/

theorem failures_submitted (system : System) (record : Scope) :
    (system.submitted record).firstFailure = record.firstFailure ∧
      (system.submitted record).suppressed = record.suppressed := by
  rw [submitted]
  split <;> exact ⟨rfl, rfl⟩

/-- What an action makes of the failures of a scope that is not left by it. -/
theorem failures_fate (record : Scope) (stays : ∀ thread, action = .leave thread →
      (system.activation thread).leaves scope = false) :
    (system.fate action scope record).firstFailure =
        record.firstFailure.or (Moment.failure? ⟨system, action⟩ scope) ∧
      (system.fate action scope record).suppressed + (system.fate action scope record).firstFailure.isSome.toNat =
        record.suppressed + record.firstFailure.isSome.toNat +
          (Moment.failure? ⟨system, action⟩ scope).isSome.toNat := by
  have still {later : Scope} {recorded : Option Failure.TaskError} (first : later.firstFailure = record.firstFailure)
      (suppressed : later.suppressed = record.suppressed) (none_recorded : recorded = none) :
      later.firstFailure = record.firstFailure.or recorded ∧ later.suppressed + later.firstFailure.isSome.toNat =
        record.suppressed + record.firstFailure.isSome.toNat + recorded.isSome.toNat := by
    rw [first, suppressed, none_recorded, Option.or_none]
    exact ⟨rfl, rfl⟩
  cases action with
  | endLogic thread outcome =>
    by_cases current : system.currentLogic? thread = some scope
    · have recorded : system.fate (.endLogic thread outcome) scope record = record.record outcome := if_pos current
      rw [recorded]
      rcases outcome with failure | _
      · have found : Moment.failure? ⟨system, .endLogic thread (.error failure)⟩ scope = some failure :=
          if_pos current
        rw [found, Scope.record, Scope.recordFailure]
        cases record.firstFailure with
        | none => exact ⟨rfl, rfl⟩
        | some first => exact ⟨rfl, rfl⟩
      · exact still rfl rfl rfl
    · have same : system.fate (.endLogic thread outcome) scope record = record := if_neg current
      rw [same]
      rcases outcome with failure | _
      · exact still rfl rfl (if_neg current)
      · exact still rfl rfl rfl
  | leave thread =>
    rw [fate, stays thread rfl]
    exact still rfl rfl rfl
  | submit thread target =>
    simp only [fate]
    split_ifs
    · obtain ⟨first, suppressed⟩ := system.failures_submitted record
      exact still first suppressed rfl
    · exact still rfl rfl rfl
  | beginExit thread target | beginDrop thread target =>
    simp only [fate, Scope.drain]
    split_ifs
    · split <;> exact still rfl rfl rfl
    · exact still rfl rfl rfl
  | complete thread =>
    simp only [fate, Scope.countOver_eq]
    split_ifs <;> exact still rfl rfl rfl
  | reduce =>
    simp only [fate]
    split_ifs <;> exact still rfl rfl rfl
  | enter | enterIn | attach | detach | acquire | dropLease | passLease | dispatch | free | endJob | vacate | next | die
  | makePool | dropPool | bar | makeRoot | makeFactory | reroute | register | configure | start | finish =>
    exact still rfl rfl rfl

/-- A thread that runs a logic runs one of a scope that is there. -/
theorem lt_of_currentLogic (sound : system.picture.Sound events) (current : system.currentLogic? thread = some scope) :
    scope < system.scopes.length := by
  obtain ⟨work, -, runs⟩ := Option.bind_eq_some_iff.mp current
  split at runs
  · rename_i kind
    exact lt_of_logic sound (Option.some.inj runs ▸ kind)
  · exact absurd runs.symm (Option.some_ne_none scope)

/-- Only for a scope that is there a failure is recorded. -/
theorem failure?_of_not_lt (sound : system.picture.Sound events) (beyond : ¬ scope < system.scopes.length) :
    Moment.failure? ⟨system, action⟩ scope = none := by
  simp only [Moment.failure?]
  split
  · exact if_neg fun current => beyond (lt_of_currentLogic sound current)
  · rfl

end System

/-- An exit that waits has noted rightly whether its context is the current one. -/
theorem Reaches.refusal_eq {setting : Setting.State} {history : List Moment} {system : System}
    (reached : Reaches (.initial setting) history system) {thread : ThreadId} {scope : ScopeId}
    {refused : Option Failure.StateError} (waits : (system.activation thread).leaving = some (scope, .exit refused)) :
    refused = (system.stack thread).refusal scope := by
  have noted : System.HasNoted (system.stack thread) (system.thread thread).activations := by
    clear waits
    induction reached with
    | start =>
      cases thread with
      | zero => exact .of_staying rfl fun _ member => absurd member List.not_mem_nil
      | succ => trivial
    | step reached enabled ih => exact (reached.turn enabled thread).hasNoted enabled ih
  rw [System.activation] at waits
  cases chain : (system.thread thread).activations with
  | nil =>
    rw [chain] at waits
    exact absurd waits.symm (Option.some_ne_none _)
  | cons top outer =>
    rw [chain] at noted waits
    exact noted.2 scope refused waits

/-- As long as a context has not been left, its scope keeps the failure that was recorded first, and has counted
the others. -/
theorem Reaches.firstFailure_eq {setting : Setting.State} {history : List Moment} {system : System}
    (reached : Reaches (.initial setting) history system) {scope : ScopeId}
    (open_yet : (system.scope scope).state ≠ .closed) :
    (system.scope scope).firstFailure = (failures history scope).head? ∧
      (system.scope scope).suppressed + (system.scope scope).firstFailure.isSome.toNat =
        (failures history scope).length := by
  induction reached with
  | start => exact ⟨rfl, rfl⟩
  | @step history system action reached enabled ih =>
    have moves := (System.step_perform reached.sound enabled).moves reached.sound.tenancy scope
    have before : (system.scope scope).state ≠ .closed := fun closed => by
      rw [show (system.picture.scope scope).state = .closed from closed] at moves
      exact open_yet moves.closed
    obtain ⟨first, counted⟩ := ih before
    rw [failures_cons, List.head?_append, List.length_append, ← first, ← counted]
    by_cases bound : scope < system.scopes.length
    · have fate := System.scope_perform reached.sound enabled bound
      have stays (thread : ThreadId) (leaves : action = .leave thread) :
          (system.activation thread).leaves scope = false := by
        subst leaves
        by_contra left
        rw [fate, System.fate, if_pos (Bool.not_eq_false _ ▸ left)] at open_yet
        exact open_yet rfl
      obtain ⟨kept, more⟩ := System.failures_fate (system.scope scope) stays
      rw [fate]
      refine ⟨kept.trans ?_, more.trans ?_⟩ <;> cases Moment.failure? ⟨system, action⟩ scope <;> rfl
    · obtain ⟨_, _, _, _, fresh⟩ := System.scope_fresh reached.sound enabled (Nat.le_of_not_lt bound)
      rw [System.failure?_of_not_lt reached.sound bound, fresh, System.scope_of_not_lt system bound]
      exact ⟨rfl, rfl⟩

/-- A thread that waits keeps its stack and what it runs until its join is over. -/
theorem Reaches.waiting {setting : Setting.State} {past more : List Moment} {before system : System} {thread : ThreadId}
    {target : ScopeId × Departure} (reached : Reaches (.initial setting) past before)
    (continued : Reaches before more system) (waits : (before.activation thread).leaving = some target)
    (stays : ∀ moment ∈ more, moment.action ≠ .leave thread) :
    system.stack thread = before.stack thread ∧
      (system.thread thread).activations = (before.thread thread).activations := by
  induction continued with
  | start => exact ⟨rfl, rfl⟩
  | @step more system action continued enabled ih =>
    obtain ⟨stack, chain⟩ := ih fun moment member => stays moment (List.mem_cons_of_mem _ member)
    have still : (system.activation thread).leaving = some target := by rwa [System.activation, chain]
    have here := reached.trans continued
    obtain ⟨same, kept⟩ := (here.turn enabled thread).waiting here.sound enabled still
      (stays ⟨system, action⟩ List.mem_cons_self)
    exact ⟨same.trans stack, kept.trans chain⟩

end ScopedWork
