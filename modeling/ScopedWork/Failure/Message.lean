import ScopedWork.Failure.Basic

/-! # What failures say

Each failure has a message for people, and a form that shows its structure in one line.
-/

namespace ScopedWork.Failure

def StateError.message : StateError → String
  | notCurrent capability => capability ++ " is not the current context of this thread"
  | empty capability => "no " ++ capability ++ " is active on this thread"

def StateError.form : StateError → String
  | notCurrent capability => Text.record "NotCurrent" [("capability", Text.quoted capability)]
  | empty capability => Text.record "Empty" [("capability", Text.quoted capability)]

mutual

def Cause.message : Cause → String
  | .text text | .volatile text => text
  | .coded code text => text ++ " (code " ++ toString code ++ ")"
  | .context error => error.message

def TaskError.message : TaskError → String
  | .panicked panic => "logic panicked: " ++ panic.message
  | .failed cause => "logic failed: " ++ cause.message

/-- The message of a failed context; the failure of a logic speaks for itself. -/
def ContextError.message : ContextError → String
  | .setting refusal => "configuration error: " ++ refusal.message
  | .state error => "scope state error: " ++ error.message
  | .task failure => failure.message
  | .abandoned error failure =>
    "scope state error: " ++ error.message ++ " (pending " ++ failure.message ++ ")"

end

mutual

def Cause.form : Cause → String
  | .text text | .volatile text => Text.quoted text
  | .coded code text => Text.record "Coded" [("code", toString code), ("text", Text.quoted text)]
  | .context error => error.form

def TaskError.form : TaskError → String
  | .panicked panic => Text.variant "Panicked" panic.form
  | .failed cause => Text.variant "Failed" cause.form

def ContextError.form : ContextError → String
  | .setting refusal => Text.variant "Config" refusal.form
  | .state error => Text.variant "ScopeState" error.form
  | .task failure => Text.variant "Task" failure.form
  | .abandoned error failure =>
    Text.record "Abandoned" [("state", error.form), ("failure", failure.form)]

end

/-- The message of the error underneath: a setting and a misuse of the stack are errors of their
own, whereas the failure of a logic is the context's error itself. -/
def ContextError.source? : ContextError → Option String
  | .setting refusal => some refusal.message
  | .state error => some error.message
  | .task _ | .abandoned _ _ => none

end ScopedWork.Failure
