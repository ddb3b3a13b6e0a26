import ScopedWork.Failure.Copies
import ScopedWork.Setting.Config

/-! # How work and its contexts fail

A logic fails by panicking or by returning an error. A context fails because of its setting, of
its place on the stack, of a logic, or of the last two at once. An error of a context may itself
be returned by an enclosing logic, so the kinds are mutual.
-/

namespace ScopedWork.Failure

/-- A misuse of a thread's stack of contexts; `capability` names the kind of context. -/
inductive StateError where
  /-- The context is not on top of the stack. -/
  | notCurrent (capability : String)
  /-- The stack is empty. -/
  | empty (capability : String)
  deriving DecidableEq, Repr

mutual

/-- What a logic returns as its error. -/
inductive Cause where
  | text (text : String)
  /-- A text with a number. -/
  | coded (code : Int) (text : String)
  /-- A text, in an error that panics when it is dropped. -/
  | volatile (text : String)
  /-- The error of a context that the logic had entered. -/
  | context (error : ContextError)

/-- How a logic failed. -/
inductive TaskError where
  | panicked (panic : Panic)
  | failed (cause : Cause)

/-- How a context failed. -/
inductive ContextError where
  /-- The setting could not be applied. -/
  | setting (refusal : Setting.Refusal)
  /-- The context was not where it had to be on the stack. -/
  | state (error : StateError)
  /-- One of its logics failed. -/
  | task (failure : TaskError)
  /-- It was left out of order after one of its logics had failed. -/
  | abandoned (error : StateError) (failure : TaskError)

end

deriving instance DecidableEq, Repr for Cause, TaskError, ContextError

instance : Inhabited TaskError := ⟨.failed (.text "")⟩

def TaskError.isPanic : TaskError → Bool
  | panicked _ => true
  | failed _ => false

mutual

/-- Whether to drop an error is a panic. -/
def Cause.isVolatile : Cause → Bool
  | .text _ | .coded _ _ => false
  | .volatile _ => true
  | .context error => error.isVolatile

def TaskError.isVolatile : TaskError → Bool
  | .panicked panic => panic.volatile
  | .failed cause => cause.isVolatile

def ContextError.isVolatile : ContextError → Bool
  | .setting _ | .state _ => false
  | .task failure | .abandoned _ failure => failure.isVolatile

end

def TaskError.panic? : TaskError → Option Panic
  | panicked panic => some panic
  | failed _ => none

def ContextError.taskFailure? : ContextError → Option TaskError
  | task failure => some failure
  | abandoned _ failure => some failure
  | setting _ | state _ => none

/-- Returns an error of a context as the failure of the logic around it, `depth` times. -/
def TaskError.wrap (failure : TaskError) : Nat → TaskError
  | 0 => failure
  | depth + 1 => (TaskError.failed (.context (.task failure))).wrap depth

end ScopedWork.Failure
