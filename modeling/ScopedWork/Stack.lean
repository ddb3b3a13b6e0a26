import ScopedWork.Failure.Basic
import ScopedWork.Text.Path

/-! # The stack of contexts

Every thread has a chain of contexts, the most recently entered on top. A stack is a value, so a
snapshot of it is a copy that no later change can reach. Contexts are told apart by identity and
looked up by kind; the same context may stand on a stack more than once.

`pop` takes a context off the top and refuses any other place, whereas `remove` takes it from
wherever it sits, topmost occurrence first, and keeps the order of all the others.
-/

namespace ScopedWork

/-- The number of a scope, counted from 0 in the order of creation. -/
abbrev ScopeId := Nat

/-- The kinds of context other than scopes. -/
inductive ObjectKind where
  | marker
  | locale
  | tagged
  /-- Any other type of context, told apart by a number, with its path. -/
  | other (number : Nat) (path : String)
  deriving DecidableEq, Repr

/-- The kinds of context, by which they are looked up. -/
inductive Capability where
  | scope
  | object (kind : ObjectKind)
  deriving DecidableEq, Repr

/-- The name under which errors speak of a kind of context. -/
def Capability.name : Capability → String
  | scope => "ConcurrentScope"
  | object .marker => "Marker"
  | object .locale => "Locale"
  | object .tagged => "Marker>"
  | object (.other _ path) => Text.lastSegment path

/-- A reference to a context; two references are to the same context when they are equal. -/
inductive Context where
  | scope (id : ScopeId)
  | object (kind : ObjectKind) (name : String)
  deriving DecidableEq, Repr

def Context.capability : Context → Capability
  | scope _ => .scope
  | object kind _ => .object kind

/-- The chain of contexts of a thread, top first. -/
structure Stack where
  frames : List Context := []
  deriving DecidableEq, Repr

namespace Stack

open Failure (StateError)

def depth (stack : Stack) : Nat :=
  stack.frames.length

def isEmpty (stack : Stack) : Bool :=
  stack.frames.isEmpty

def push (stack : Stack) (context : Context) : Stack :=
  { frames := context :: stack.frames }

/-- The refusal to treat a context as the current one. -/
def notCurrent (context : Context) : StateError :=
  .notCurrent context.capability.name

def pop (stack : Stack) (context : Context) : Except StateError Stack :=
  match stack.frames with
  | [] => .error (.empty context.capability.name)
  | top :: rest => if top = context then .ok { frames := rest } else .error (notCurrent context)

/-- Puts the frames of `above`, nearest first, back on top of `rest`. -/
def rebuild : (above rest : List Context) → List Context
  | [], rest => rest
  | kept :: above, rest => rebuild above (kept :: rest)

/-- Walks down to a context, collecting the frames above it, and rebuilds the chain without it;
`none` if the context is not there. -/
def removeBelow (context : Context) : (above frames : List Context) → Option (List Context)
  | _, [] => none
  | above, frame :: rest =>
    if frame = context then some (rebuild above rest) else removeBelow context (frame :: above) rest

/-- Takes a context off the stack wherever it sits; `none` if it is not on the stack. -/
def remove? (stack : Stack) (context : Context) : Option Stack :=
  (removeBelow context [] stack.frames).map fun frames => { frames }

/-- The stack without the topmost occurrence of a context, or as it was without one. -/
def remove (stack : Stack) (context : Context) : Stack :=
  (stack.remove? context).getD stack

def find? (stack : Stack) (capability : Capability) : Option Context :=
  stack.frames.find? fun context => context.capability = capability

def currentScope? (stack : Stack) : Option ScopeId :=
  stack.frames.findSome? fun
    | .scope id => some id
    | .object _ _ => none

def isCurrent (stack : Stack) (context : Context) : Bool :=
  match stack.frames with
  | [] => false
  | top :: _ => top = context

/-- Refuses any context that is not on top. -/
def ensureCurrent (stack : Stack) (context : Context) : Except StateError Unit :=
  if stack.isCurrent context then .ok () else .error (notCurrent context)

def holds (stack : Stack) (context : Context) : Bool :=
  stack.frames.contains context

/-- The kinds of the contexts in one line, top first. -/
def form (stack : Stack) : String :=
  Text.listed (stack.frames.map fun context => Text.quoted context.capability.name)

end Stack

end ScopedWork
