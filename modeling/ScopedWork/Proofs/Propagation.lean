import ScopedWork.Failure.Message
import ScopedWork.Proofs.Departure
import ScopedWork.Proofs.Payloads

/-! # How failures go on through contexts

A logic that exits a context may find the failure of a logic in there, and may fail of it itself: it resumes the
panic that it has found, or returns the error. The logic around it finds this failure in turn, and so on from one
context to the next one around it. However many they are, and wherever the logics run, the panic that is found at last
still has the message of the first one, and its payload unless somebody has taken that; and the error that is
returned at last tells how often it has been returned.
-/

namespace ScopedWork

open Failure (Cause Cells ContextError Panic Payload StateError TaskError)

/-- What goes on in a process in which panics are caught. -/
inductive Deed where
  | act (action : Action)
  /-- The program of a logic ends with a panic, which is caught and recorded. -/
  | raise (thread : ThreadId) (payload : Payload)
  /-- Somebody takes the payload of a panic, be it to have it or to resume the panic. -/
  | take (panic : Panic)

def Deed.action? (system : System) : Deed → Option Action
  | .act action => some action
  | .raise thread payload => some (.endLogic thread (.error (.panicked (system.cells.catchPanic payload).1)))
  | .take _ => none

/-- The cells of the caught panics after a deed. -/
def Deed.cells (system : System) : Deed → Cells
  | .act _ => system.cells
  | .raise _ payload => (system.cells.catchPanic payload).2
  | .take panic => (system.cells.take panic).2

/-- A deed, and the process in which it is done. -/
structure Beat where
  before : System
  deed : Deed

def Beat.moment? (beat : Beat) : Option Moment :=
  (beat.deed.action? beat.before).map (⟨beat.before, ·⟩)

def momentsOf (history : List Beat) : List Moment :=
  history.filterMap Beat.moment?

/-- Whether the payload of a panic is taken in one of the beats. -/
def hasBeenTaken (history : List Beat) (panic : Panic) : Bool :=
  history.any fun beat => match beat.deed with
    | .take other => other.cell == panic.cell
    | .act _ | .raise .. => false

/-- The error of an exit that finds a failure, and that was refused or not. -/
def exitError (refused : Option StateError) (failure : TaskError) : ContextError :=
  match refused with
  | none => .task failure
  | some state => .abandoned state failure

namespace System

variable (system : System)

def Permits (deed : Deed) : Prop :=
  ∀ action ∈ deed.action? system, system.Enabled action

instance (deed : Deed) : Decidable (system.Permits deed) :=
  inferInstanceAs (Decidable (∀ action ∈ deed.action? system, system.Enabled action))

/-- What a deed does. A panic is caught before it is recorded. -/
def carryOut (deed : Deed) : System :=
  let caught : System := { system with cells := deed.cells system }
  (deed.action? system).elim caught caught.perform

def permits (system : System) : List Deed → Bool
  | [] => true
  | deed :: rest => decide (system.Permits deed) && (system.carryOut deed).permits rest

def carryOutAll (deeds : List Deed) : System :=
  deeds.foldl carryOut system

def beats (system : System) (history : List Beat) : List Deed → List Beat
  | [] => history
  | deed :: rest => (system.carryOut deed).beats (⟨system, deed⟩ :: history) rest

/-- A thread has begun to exit the context of a scope, which was refused or not, and the join is over. -/
structure Exits (thread : ThreadId) (scope : ScopeId) (refused : Option StateError) : Prop where
  waits : (system.activation thread).leaving = some (scope, .exit refused)
  ready : system.Enabled (.leave thread)

/-- The error that a thread reports when it leaves a context, if it does and there is one. -/
def exitError? (thread : ThreadId) : Option ContextError :=
  (system.leave? thread).bind Prod.fst

end System

/-- What a process has come to in which panics are caught; its history lists the beats, latest first. -/
inductive Unfolds (first : System) : (history : List Beat) → System → Prop
  | start : Unfolds first [] first
  | step {history : List Beat} {system : System} {deed : Deed} :
    Unfolds first history system → system.Permits deed →
      Unfolds first (⟨system, deed⟩ :: history) (system.carryOut deed)

/-- A logic of a context has panicked with a payload, and its panic has gone on through so many contexts, each time
resumed by a logic that has found it in the error of an exit. The last of these logics is one of `scope`, and
`panic` is what was caught of it. Whether the payload has been taken by others on the way is noted as well. -/
inductive Raised (first : System) (payload : Payload) :
    (depth : Nat) → List Beat → System → ScopeId → Panic → (taken : Bool) → Prop
  | bottom {history : List Beat} {system : System} {thread : ThreadId} {scope : ScopeId}
    (unfolds : Unfolds first history system) (runs : system.currentLogic? thread = some scope)
    (permitted : system.Permits (.raise thread payload)) :
    Raised first payload 1 (⟨system, .raise thread payload⟩ :: history)
      (system.carryOut (.raise thread payload)) scope
      (system.cells.catchPanic payload).1 false
  | onward {depth : Nat} {history joining resting unwinding : List Beat} {before exiting resuming last : System}
    {inner outer : ScopeId} {panic found : Panic} {taken : Bool} {thread : ThreadId} {refused : Option StateError}
    {error : ContextError} (raised : Raised first payload depth history before inner panic taken)
    (joins : Unfolds before joining exiting) (exits : exiting.Exits thread inner refused)
    -- no other logic of the context has failed
    (alone : (failures (momentsOf (joining ++ history)) inner).length = 1)
    (reports : exiting.exitError? thread = some error) (finds : error.taskFailure? = some (.panicked found))
    (rests : Unfolds (exiting.carryOut (.act (.leave thread))) resting resuming)
    (unwinds : Unfolds (resuming.carryOut (.take found)) unwinding last)
    (runs : last.currentLogic? thread = some outer)
    (permitted : last.Permits (.raise thread (resuming.cells.resume found).1)) :
    Raised first payload (depth + 1)
      (⟨last, .raise thread (resuming.cells.resume found).1⟩ :: (unwinding ++ ⟨resuming, .take found⟩ ::
        (resting ++ ⟨exiting, .act (.leave thread)⟩ :: (joining ++ history))))
      (last.carryOut (.raise thread (resuming.cells.resume found).1)) outer
      (last.cells.catchPanic (resuming.cells.resume found).1).1
      (taken || hasBeenTaken (resting ++ ⟨exiting, .act (.leave thread)⟩ :: joining) found)

/-- A logic of a context has returned an error, and it has gone on through so many contexts, each time returned by a
logic that has exited the context in order and has found it there. The last of these logics is one of `scope`, and
`failure` is what was recorded of it. -/
inductive Returned (first : System) (cause : Cause) :
    (depth : Nat) → List Beat → System → ScopeId → TaskError → Prop
  | bottom {history : List Beat} {system : System} {thread : ThreadId} {scope : ScopeId}
    (unfolds : Unfolds first history system) (runs : system.currentLogic? thread = some scope)
    (permitted : system.Permits (.act (.endLogic thread (.error (.failed cause))))) :
    Returned first cause 1 (⟨system, .act (.endLogic thread (.error (.failed cause)))⟩ :: history)
      (system.carryOut (.act (.endLogic thread (.error (.failed cause))))) scope (.failed cause)
  | onward {depth : Nat} {history joining unwinding : List Beat} {before exiting last : System}
    {inner outer : ScopeId} {failure : TaskError} {thread : ThreadId} {error : ContextError}
    (returned : Returned first cause depth history before inner failure)
    (joins : Unfolds before joining exiting) (exits : exiting.Exits thread inner none)
    (alone : (failures (momentsOf (joining ++ history)) inner).length = 1)
    (reports : exiting.exitError? thread = some error)
    (unwinds : Unfolds (exiting.carryOut (.act (.leave thread))) unwinding last)
    (runs : last.currentLogic? thread = some outer)
    (permitted : last.Permits (.act (.endLogic thread (.error (.failed (.context error)))))) :
    Returned first cause (depth + 1)
      (⟨last, .act (.endLogic thread (.error (.failed (.context error))))⟩ ::
        (unwinding ++ ⟨exiting, .act (.leave thread)⟩ :: (joining ++ history)))
      (last.carryOut (.act (.endLogic thread (.error (.failed (.context error)))))) outer (.failed (.context error))

/-! ## Runs with panics -/

namespace Unfolds

variable {first system later : System} {history more : List Beat}

theorem trans (unfolds : Unfolds first history system) (continued : Unfolds system more later) :
    Unfolds first (more ++ history) later := by
  induction continued with
  | start => exact unfolds
  | step _ permitted ih => exact ih.step permitted

theorem carryOutAll (unfolds : Unfolds first history system) {deeds : List Deed}
    (allowed : system.permits deeds = true) :
    Unfolds first (system.beats history deeds) (system.carryOutAll deeds) := by
  induction deeds generalizing system history with
  | nil => exact unfolds
  | cons deed rest ih =>
    simp only [System.permits, Bool.and_eq_true, decide_eq_true_eq] at allowed
    exact ih (unfolds.step allowed.1) allowed.2

end Unfolds

/-- As if the cells of the caught panics were these. -/
def holding (cells : Cells) : Renoting where
  cells _ := cells

section Bare

variable {setting : Setting.State} {history : List Beat} {system : System} {deed : Deed} {cells : Cells}

/-- But for the cells, a deed does the same as its action. -/
theorem carryOut_renote {past : List Moment} {bare : System} (reached : Reaches (.initial setting) past bare)
    (permitted : (bare.renote (holding cells)).Permits deed) :
    (bare.renote (holding cells)).carryOut deed =
      ((deed.action? (bare.renote (holding cells))).elim bare bare.perform).renote
        (holding (deed.cells (bare.renote (holding cells)))) := by
  let caught := holding (deed.cells (bare.renote (holding cells)))
  rw [System.carryOut]
  cases known : deed.action? (bare.renote (holding cells)) with
  | none => rfl
  | some action =>
    have enabled : bare.Enabled action := (System.enabled_renote fun _ => rfl).mp (permitted action known)
    exact @System.perform_renote caught bare action _ (fun _ => rfl) reached.sound enabled fun _ _ _ _ => rfl

theorem failure?_renote (before : System) (note : Renoting) (action : Action) (scope : ScopeId) :
    Moment.failure? ⟨before.renote note, action⟩ scope = Moment.failure? ⟨before, action⟩ scope := by
  have logic (thread : ThreadId) : (before.renote note).currentLogic? thread = before.currentLogic? thread := by
    rw [System.currentLogic?, System.currentWork?_renote]
    rfl
  simp only [Moment.failure?, logic]

/-- But for the cells of its caught panics, a process comes to what its actions alone make of it. -/
theorem Unfolds.bare (unfolds : Unfolds (.initial setting) history system) :
    ∃ past bare cells, Reaches (.initial setting) past bare ∧ system = bare.renote (holding cells) ∧
      ∀ scope, failures past scope = failures (momentsOf history) scope := by
  induction unfolds with
  | start => exact ⟨[], .initial setting, {}, .start, rfl, fun _ => rfl⟩
  | @step history system deed unfolds permitted ih =>
    obtain ⟨past, bare, cells, reached, rfl, recorded⟩ := ih
    have same := carryOut_renote reached permitted
    let system := bare.renote (holding cells)
    cases known : deed.action? system with
    | none =>
      rw [known] at same
      have skipped : momentsOf (⟨system, deed⟩ :: history) = momentsOf history :=
        List.filterMap_cons_none (congrArg (Option.map (Moment.mk system)) known)
      exact ⟨past, bare, _, reached, same, fun scope => by rw [recorded, skipped]⟩
    | some action =>
      rw [known] at same
      have enabled : bare.Enabled action := (System.enabled_renote fun _ => rfl).mp (permitted action known)
      have more : momentsOf (⟨system, deed⟩ :: history) = ⟨system, action⟩ :: momentsOf history :=
        List.filterMap_cons_some (congrArg (Option.map (Moment.mk system)) known)
      refine ⟨_, bare.perform action, _, reached.step enabled, same, fun scope => ?_⟩
      rw [more, failures_cons, failures_cons, recorded, failure?_renote]

theorem Unfolds.cells_carryOut (unfolds : Unfolds (.initial setting) history system) (permitted : system.Permits deed) :
    (system.carryOut deed).cells = deed.cells system := by
  obtain ⟨past, bare, cells, reached, rfl, -⟩ := unfolds.bare
  rw [carryOut_renote reached permitted]
  rfl

end Bare

/-! ## Payloads -/

/-- The cell of a caught panic still has its payload in it, or its message if the payload had been taken before. -/
structure Holds (system : System) (panic : Panic) (payload : Payload) (taken : Bool) : Prop where
  message : panic.message = payload.message
  inside : panic.cell < system.cells.contents.length
  content : system.cells.peek panic.cell = some (payload.relayed taken)

section Payloads

variable {setting : Setting.State} {history more : List Beat} {before system : System} {panic : Panic}
  {payload : Payload} {taken : Bool}

/-- A payload stays in its cell until somebody takes it. -/
theorem Unfolds.peek (unfolds : Unfolds (.initial setting) history before) (continued : Unfolds before more system)
    (inside : panic.cell < before.cells.contents.length) :
    panic.cell < system.cells.contents.length ∧
      system.cells.peek panic.cell = if hasBeenTaken more panic then none else before.cells.peek panic.cell := by
  induction continued with
  | start => exact ⟨inside, rfl⟩
  | @step more system deed continued permitted ih =>
    obtain ⟨bound, found⟩ := ih
    rw [(unfolds.trans continued).cells_carryOut permitted]
    cases deed with
    | act action => exact ⟨bound, found⟩
    | raise thread payload =>
      refine ⟨?_, (peek_catchPanic_of_lt bound payload).trans found⟩
      exact Nat.lt_of_lt_of_eq (Nat.lt_succ_of_lt bound) (length_catchPanic system.cells payload).symm
    | take other =>
      refine ⟨Nat.lt_of_lt_of_eq bound List.length_set.symm, (peek_take system.cells other panic.cell).trans ?_⟩
      have taken : hasBeenTaken (⟨system, .take other⟩ :: more) panic =
          (other.cell == panic.cell || hasBeenTaken more panic) := List.any_cons
      rw [taken, found]
      by_cases same : other.cell = panic.cell
      · rw [if_pos same, same, beq_self_eq_true, Bool.true_or, if_pos rfl]
      · rw [if_neg same, beq_false_of_ne same, Bool.false_or]

/-- What is caught is held. -/
theorem Unfolds.holds {thread : ThreadId} (unfolds : Unfolds (.initial setting) history system)
    (permitted : system.Permits (.raise thread (payload.relayed taken))) :
    Holds (system.carryOut (.raise thread (payload.relayed taken)))
      (system.cells.catchPanic (payload.relayed taken)).1 payload taken := by
  constructor
  case message => exact message_relayed payload taken
  case inside =>
    rw [unfolds.cells_carryOut permitted, Deed.cells, length_catchPanic]
    exact Nat.lt_succ_self _
  case content =>
    rw [unfolds.cells_carryOut permitted]
    exact peek_catchPanic system.cells (payload.relayed taken)

/-- What becomes of the payload that a cell holds. -/
theorem Holds.take_eq (holds : Holds before panic payload taken) (unfolds : Unfolds (.initial setting) history before)
    (continued : Unfolds before more system) :
    (system.cells.take panic).1 = if hasBeenTaken more panic then none else some (payload.relayed taken) := by
  rw [← holds.content]
  exact (unfolds.peek continued holds.inside).2

theorem Holds.resume_eq (holds : Holds before panic payload taken) (unfolds : Unfolds (.initial setting) history before)
    (continued : Unfolds before more system) :
    (system.cells.resume panic).1 = payload.relayed (taken || hasBeenTaken more panic) := by
  have resumed : (system.cells.resume panic).1 = (system.cells.take panic).1.getD (.owned panic.message) := rfl
  rw [resumed, holds.take_eq unfolds continued, holds.message, ← relayed_relayed]
  cases hasBeenTaken more panic with
  | false => rfl
  | true => exact congrArg Payload.owned (message_relayed payload taken).symm

end Payloads

/-! ## What an exit finds -/

section Exits

variable {setting : Setting.State} {history more : List Beat} {system : System} {deed : Deed} {thread : ThreadId}
  {scope : ScopeId} {refused : Option StateError} {failure : TaskError}

theorem exitReport_singleton (stack : Stack) (scope : ScopeId) (failure : TaskError) :
    exitReport (stack.IsTop scope) [failure] = some (exitError (stack.refusal scope) failure) := by
  rw [exitReport, Stack.refusal]
  split_ifs <;> rfl

/-- The end of a logic is recorded as its failure. -/
theorem mem_failures (runs : system.currentLogic? thread = some scope)
    (ends : deed.action? system = some (.endLogic thread (.error failure))) :
    failure ∈ failures (momentsOf (⟨system, deed⟩ :: history)) scope := by
  have recorded : momentsOf (⟨system, deed⟩ :: history) =
      ⟨system, .endLogic thread (.error failure)⟩ :: momentsOf history :=
    List.filterMap_cons_some (congrArg (Option.map (Moment.mk system)) ends)
  have found : Moment.failure? ⟨system, .endLogic thread (.error failure)⟩ scope = some failure := if_pos runs
  rw [recorded, failures_cons, found]
  exact List.mem_append_right _ List.mem_cons_self

/-- The only failure of a context's logics is the one that is known to have been recorded. -/
theorem failures_eq_singleton (recorded : failure ∈ failures (momentsOf history) scope)
    (alone : (failures (momentsOf (more ++ history)) scope).length = 1) :
    failures (momentsOf (more ++ history)) scope = [failure] := by
  have still : failure ∈ failures (momentsOf (more ++ history)) scope := by
    rw [momentsOf, List.filterMap_append, failures, List.filterMap_append, List.reverse_append]
    exact List.mem_append_left _ recorded
  obtain ⟨only, same⟩ := List.length_eq_one_iff.mp alone
  rw [same] at still ⊢
  rw [List.mem_singleton.mp still]

/-- An exit reports the only failure of the context's logics, and that it was refused if it was. -/
theorem Unfolds.exitError?_eq (unfolds : Unfolds (.initial setting) history system)
    (exits : system.Exits thread scope refused) (only : failures (momentsOf history) scope = [failure]) :
    system.exitError? thread = some (exitError refused failure) := by
  obtain ⟨past, bare, cells, reached, rfl, recorded⟩ := unfolds.bare
  obtain ⟨waits, ready⟩ := exits
  have waited : (bare.activation thread).leaving = some (scope, .exit refused) := by
    rw [System.activation_renote, Activation.renote] at waits
    exact (congrFun Option.map_id _).symm.trans waits
  have settled : (bare.scope scope).isSettled = true := by
    change ((bare.renote (holding cells)).leave? thread).isSome = true at ready
    rw [System.isSome_leave?, waits] at ready
    exact ready
  obtain rfl := reached.refusal_eq waited
  obtain ⟨-, unclosed, -, -⟩ := System.leave_of_settled reached.sound waited settled
  have first : ((bare.renote (holding cells)).scope scope).firstFailure = some failure := by
    have kept := (reached.firstFailure_eq unclosed).1
    rwa [recorded, only] at kept
  rw [← System.stack_renote (holding cells)] at waits ⊢
  rw [System.exitError?, System.leave?_exit waits settled, first, ← exitReport_singleton]
  rfl

end Exits

/-! ## From one context to the next -/

section Onward

variable {first : System} {setting : Setting.State} {payload : Payload} {cause : Cause} {depth : Nat}
  {history more : List Beat} {system exiting : System} {scope : ScopeId} {panic : Panic} {taken : Bool}
  {thread : ThreadId} {refused : Option StateError} {failure : TaskError}

theorem System.permits_take (system : System) (panic : Panic) : system.Permits (.take panic) :=
  fun _ same => absurd same.symm (Option.some_ne_none _)

theorem System.permits_act {action : Action} (enabled : system.Enabled action) : system.Permits (.act action) :=
  fun _ same => Option.some.inj same ▸ enabled

/-- A run goes on over the exit of a context, and over the resumption of the panic that was found. -/
theorem Unfolds.resuming {before resuming last : System} {joining resting unwinding : List Beat}
    (unfolds : Unfolds first history before) (joins : Unfolds before joining exiting)
    (exits : exiting.Exits thread scope refused)
    (rests : Unfolds (exiting.carryOut (.act (.leave thread))) resting resuming)
    (unwinds : Unfolds (resuming.carryOut (.take panic)) unwinding last) :
    Unfolds first (unwinding ++ ⟨resuming, .take panic⟩ ::
      (resting ++ ⟨exiting, .act (.leave thread)⟩ :: (joining ++ history))) last := by
  have left := ((unfolds.trans joins).step (System.permits_act exits.ready)).trans rests
  exact (left.step (System.permits_take resuming panic)).trans unwinds

theorem Raised.unfolds (raised : Raised first payload depth history system scope panic taken) :
    Unfolds first history system := by
  induction raised with
  | bottom unfolds _ permitted => exact unfolds.step permitted
  | onward _ joins exits _ _ _ rests unwinds _ permitted ih =>
    exact (ih.resuming joins exits rests unwinds).step permitted

theorem Raised.recorded (raised : Raised first payload depth history system scope panic taken) :
    .panicked panic ∈ failures (momentsOf history) scope := by
  cases raised with
  | bottom _ runs => exact mem_failures runs rfl
  | onward _ _ _ _ _ _ _ _ runs => exact mem_failures runs rfl

/-- The error of an exit carries the panic of the context's logic. -/
theorem Raised.exitError?_eq (raised : Raised (.initial setting) payload depth history system scope panic taken)
    (joins : Unfolds system more exiting) (exits : exiting.Exits thread scope refused)
    (alone : (failures (momentsOf (more ++ history)) scope).length = 1) :
    exiting.exitError? thread = some (exitError refused (.panicked panic)) :=
  (raised.unfolds.trans joins).exitError?_eq exits (failures_eq_singleton raised.recorded alone)

theorem taskFailure?_exitError (refused : Option StateError) (failure : TaskError) :
    (exitError refused failure).taskFailure? = some failure := by
  cases refused <;> rfl

/-- However far a panic has gone on, its message and its payload have gone with it. -/
theorem Raised.holds (raised : Raised (.initial setting) payload depth history system scope panic taken) :
    Holds system panic payload taken := by
  induction raised with
  | bottom unfolds _ permitted => exact @Unfolds.holds setting _ _ payload false _ unfolds permitted
  | @onward depth history joining resting unwinding before exiting resuming last inner outer panic found taken thread
      refused error raised joins exits alone reports finds rests unwinds runs permitted ih =>
    have reported := raised.exitError?_eq joins exits alone
    obtain rfl : error = exitError refused (.panicked panic) := Option.some.inj (reports.symm.trans reported)
    obtain rfl : panic = found := by
      rw [taskFailure?_exitError] at finds
      exact TaskError.panicked.inj (Option.some.inj finds)
    have resumes := (joins.step (System.permits_act exits.ready)).trans rests
    rw [ih.resume_eq raised.unfolds resumes] at permitted ⊢
    exact (raised.unfolds.resuming joins exits rests unwinds).holds permitted

theorem Returned.unfolds (returned : Returned first cause depth history system scope failure) :
    Unfolds first history system := by
  induction returned with
  | bottom unfolds _ permitted => exact unfolds.step permitted
  | onward _ joins exits _ _ unwinds _ permitted ih =>
    exact (((ih.trans joins).step (System.permits_act exits.ready)).trans unwinds).step permitted

theorem Returned.recorded (returned : Returned first cause depth history system scope failure) :
    failure ∈ failures (momentsOf history) scope := by
  cases returned with
  | bottom _ runs => exact mem_failures runs rfl
  | onward _ _ _ _ _ _ runs => exact mem_failures runs rfl

theorem Returned.exitError?_eq (returned : Returned (.initial setting) cause depth history system scope failure)
    (joins : Unfolds system more exiting) (exits : exiting.Exits thread scope none)
    (alone : (failures (momentsOf (more ++ history)) scope).length = 1) :
    exiting.exitError? thread = some (.task failure) :=
  (returned.unfolds.trans joins).exitError?_eq exits (failures_eq_singleton returned.recorded alone)

theorem wrap_succ (failure : TaskError) (depth : Nat) :
    failure.wrap (depth + 1) = .failed (.context (.task (failure.wrap depth))) := by
  induction depth generalizing failure with
  | zero => rfl
  | succ depth ih => exact ih (.failed (.context (.task failure)))

/-- However far an error has gone on, it is wrapped once for each context. -/
theorem Returned.eq_wrap (returned : Returned (.initial setting) cause depth history system scope failure) :
    ∃ outer, depth = outer + 1 ∧ failure = (TaskError.failed cause).wrap outer := by
  induction returned with
  | bottom => exact ⟨0, rfl, rfl⟩
  | onward returned joins exits alone reports _ _ _ ih =>
    obtain ⟨outer, rfl, rfl⟩ := ih
    have reported := returned.exitError?_eq joins exits alone
    obtain rfl := Option.some.inj (reports.symm.trans reported)
    exact ⟨outer + 1, rfl, (wrap_succ _ outer).symm⟩

theorem message_wrap (cause : Cause) (outer : Nat) : ((TaskError.failed cause).wrap outer).message =
    String.join (List.replicate (outer + 1) "logic failed: ") ++ cause.message := by
  induction outer with
  | zero =>
    rw [List.replicate_one, String.join_cons, String.join_nil, String.append_empty]
    rfl
  | succ outer ih =>
    rw [wrap_succ, List.replicate_succ, String.join_cons, String.append_assoc, ← ih]
    rfl

theorem isPanic_wrap (cause : Cause) (outer : Nat) : ((TaskError.failed cause).wrap outer).isPanic = false := by
  cases outer with
  | zero => rfl
  | succ outer => rw [wrap_succ]; rfl

end Onward

/-- What the outermost exit finds of a panic, if there was no other failure. -/
structure FindsPanic (payload : Payload) (taken : Bool) (more : List Beat) (exiting : System) (thread : ThreadId)
    (refused : Option StateError) (panic : Panic) : Prop where
  reports : exiting.exitError? thread = some (exitError refused (.panicked panic))
  carries : (exitError refused (.panicked panic)).taskFailure? = some (.panicked panic)
  message : panic.message = payload.message
  /-- Who takes the payload afterwards gets it, or the message if it was taken on the way; the second time there is
  nothing left. -/
  take : ∀ {after : List Beat} {later : System}, Unfolds (exiting.carryOut (.act (.leave thread))) after later →
    (later.cells.take panic).1 = if hasBeenTaken (after ++ ⟨exiting, .act (.leave thread)⟩ :: more) panic then none
      else some (payload.relayed taken)

/-- What the outermost exit finds of an error, if there was no other failure. -/
structure FindsError (cause : Cause) (depth : Nat) (exiting : System) (thread : ThreadId) (failure : TaskError) :
    Prop where
  reports : exiting.exitError? thread = some (.task failure)
  failed : failure.isPanic = false
  wrapped : ∃ outer, depth = outer + 1 ∧ failure = (TaskError.failed cause).wrap outer
  message : (ContextError.task failure).message =
    String.join (List.replicate depth "logic failed: ") ++ cause.message

/-- A panic that is resumed, and an error that is returned, from one context to the next, however many there are and
wherever their logics run, come to the outermost exit with their message, and a panic with its payload. -/
theorem failures_propagate (setting : Setting.State) (payload : Payload) (cause : Cause) :
    (∀ {depth : Nat} {history more : List Beat} {before exiting : System} {scope : ScopeId} {panic : Panic}
      {taken : Bool} {thread : ThreadId} {refused : Option StateError},
      Raised (.initial setting) payload depth history before scope panic taken → Unfolds before more exiting →
      exiting.Exits thread scope refused → (failures (momentsOf (more ++ history)) scope).length = 1 →
      FindsPanic payload taken more exiting thread refused panic) ∧
    ∀ {depth : Nat} {history more : List Beat} {before exiting : System} {scope : ScopeId} {failure : TaskError}
      {thread : ThreadId},
      Returned (.initial setting) cause depth history before scope failure → Unfolds before more exiting →
      exiting.Exits thread scope none → (failures (momentsOf (more ++ history)) scope).length = 1 →
      FindsError cause depth exiting thread failure := by
  constructor
  · intro depth history more before exiting scope panic taken thread refused raised joins exits alone
    constructor
    case reports => exact raised.exitError?_eq joins exits alone
    case carries => exact taskFailure?_exitError refused (.panicked panic)
    case message => exact raised.holds.message
    case take =>
      intro after later leaves
      exact raised.holds.take_eq raised.unfolds ((joins.step (System.permits_act exits.ready)).trans leaves)
  · intro depth history more before exiting scope failure thread returned joins exits alone
    obtain ⟨outer, rfl, rfl⟩ := returned.eq_wrap
    exact ⟨returned.exitError?_eq joins exits alone, isPanic_wrap cause outer, ⟨outer, rfl, rfl⟩,
      message_wrap cause outer⟩

/-- A logic panics that the thread of another runs in a context of its own; this one, on a helper, finds the panic and
resumes it. The same happens to an error. -/
theorem failures_propagate_pooledAroundInline :
    let first := System.initial { hardware := 4 }
    let opening : List Deed := [.act (.makePool 1 {}), .act (.makeRoot 0 1), .act (.enterIn 0 0 (.owned "outer")),
      .act (.submit 0 1), .act (.enter 1 (.owned "inner")), .act (.submit 1 2)]
    let running := first.carryOutAll opening
    let joining : List Deed := [.act (.vacate 1), .act (.complete 1), .act (.beginExit 1 2)]
    let closing : List Deed := [.act (.vacate 1), .act (.complete 1), .act (.beginExit 0 1)]
    let panicked := running.carryOut (.raise 1 (.number 7))
    let found : Panic := (running.cells.catchPanic (.number 7)).1
    let left := (panicked.carryOutAll joining).carryOut (.act (.leave 1))
    let taking := left.carryOut (.take found)
    let resumed := taking.carryOut (.raise 1 (left.cells.resume found).1)
    let failed := running.carryOut (.act (.endLogic 1 (.error (.failed (.text "disk full")))))
    let error : ContextError := .task (.failed (.text "disk full"))
    let returned := ((failed.carryOutAll joining).carryOut (.act (.leave 1))).carryOut
      (.act (.endLogic 1 (.error (.failed (.context error)))))
    FindsPanic (.number 7) false (resumed.beats [] closing) (resumed.carryOutAll closing) 0 none
        (taking.cells.catchPanic (left.cells.resume found).1).1 ∧
      FindsError (.text "disk full") 2 (returned.carryOutAll closing) 0 (.failed (.context error)) := by
  intro first opening running joining closing panicked found left taking resumed failed error returned
  have opened : Unfolds first (first.beats [] opening) running := Unfolds.start.carryOutAll (by decide)
  constructor
  · have bottom : Raised first (.number 7) 1 (⟨running, .raise 1 (.number 7)⟩ :: first.beats [] opening) panicked 2
        found false := .bottom opened (by decide) (by decide)
    have joins : Unfolds panicked (panicked.beats [] joining) (panicked.carryOutAll joining) :=
      Unfolds.start.carryOutAll (by decide)
    have exits : (panicked.carryOutAll joining).Exits 1 2 none := ⟨by decide, by decide⟩
    have reports : (panicked.carryOutAll joining).exitError? 1 = some (.task (.panicked found)) := by decide
    have runs : taking.currentLogic? 1 = some 1 := by decide
    have permitted : taking.Permits (.raise 1 (left.cells.resume found).1) := by decide
    have onward := bottom.onward joins exits (by decide) reports rfl .start .start runs permitted
    have closes : Unfolds resumed (resumed.beats [] closing) (resumed.carryOutAll closing) :=
      Unfolds.start.carryOutAll (by decide)
    have leaves : (resumed.carryOutAll closing).Exits 0 1 none := ⟨by decide, by decide⟩
    exact (failures_propagate { hardware := 4 } (.number 7) (.text "disk full")).1 onward closes leaves (by decide)
  · have bottom : Returned first (.text "disk full") 1 (⟨running, .act _⟩ :: first.beats [] opening) failed 2
        (.failed (.text "disk full")) := .bottom opened (by decide) (by decide)
    have joins : Unfolds failed (failed.beats [] joining) (failed.carryOutAll joining) :=
      Unfolds.start.carryOutAll (by decide)
    have exits : (failed.carryOutAll joining).Exits 1 2 none := ⟨by decide, by decide⟩
    have reports : (failed.carryOutAll joining).exitError? 1 = some error := by decide
    have runs : ((failed.carryOutAll joining).carryOut (.act (.leave 1))).currentLogic? 1 = some 1 := by decide
    have onward := bottom.onward joins exits (by decide) reports .start runs (by decide)
    have closes : Unfolds returned (returned.beats [] closing) (returned.carryOutAll closing) :=
      Unfolds.start.carryOutAll (by decide)
    have leaves : (returned.carryOutAll closing).Exits 0 1 none := ⟨by decide, by decide⟩
    exact (failures_propagate { hardware := 4 } (.number 7) (.text "disk full")).2 onward closes leaves (by decide)

end ScopedWork
