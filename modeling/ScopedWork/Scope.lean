import ScopedWork.Stack
import ScopedWork.Pool

/-! # Scopes

A scope is one nesting level of concurrent work. It keeps count of the logics submitted to it and
of those that are over, remembers the failure recorded first, and has a concurrency that can only
fall. Logics are handed to helpers of the scope's pool or run by their submitter; the bookkeeping
is the same.
-/

namespace ScopedWork

open Failure (TaskError)

/-- The number of a work, counted from 0 in the order of submission. -/
abbrev WorkId := Nat

/-- The life of a scope. -/
inductive ScopeState where
  /-- Logics may be submitted. -/
  | accepting
  /-- Its context waits for the logics that are not over. -/
  | draining
  /-- Its context has been left. -/
  | closed
  deriving DecidableEq, Repr

def ScopeState.name : ScopeState → String
  | accepting => "Open"
  | draining => "Draining"
  | closed => "Closed"

/-- One nesting level of concurrent work. -/
structure Scope where
  /-- The scope it was entered in; a root has none. -/
  parent : Option ScopeId := none
  /-- The work during which it was entered. -/
  within : Option WorkId := none
  pool : PoolId
  /-- How many of the pool's slots its logics may use. -/
  concurrency : Nat
  state : ScopeState := .accepting
  /-- Logics submitted. -/
  dispatched : Nat := 0
  /-- Logics that are over. -/
  completed : Nat := 0
  /-- Logics for which a lease was had. -/
  pooled : Nat := 0
  /-- Logics for which none was had. -/
  inlined : Nat := 0
  /-- Failures recorded after the first. -/
  suppressed : Nat := 0
  firstFailure : Option TaskError := none
  deriving DecidableEq, Repr

instance : Inhabited Scope := ⟨{ pool := 0, concurrency := 0 }⟩

namespace Scope

/-- A root scope over a pool, with a concurrency cut at the pool's capacity. -/
def root (pool : PoolId) (capacity concurrency : Nat) : Scope :=
  { pool, concurrency := min concurrency capacity }

/-- A scope nested in `scope`, whose number is `id`: it has the pool and the concurrency that its
parent has now. -/
def child (scope : Scope) (id : ScopeId) (within : Option WorkId) : Scope :=
  { parent := some id, within, pool := scope.pool, concurrency := scope.concurrency }

/-- Lowers the concurrency; a larger one changes nothing. -/
def reduce (scope : Scope) (concurrency : Nat) : Scope :=
  { scope with concurrency := min scope.concurrency concurrency }

def countDispatched (scope : Scope) : Scope :=
  { scope with dispatched := scope.dispatched + 1 }

/-- Counts a logic for which a lease was had. -/
def countPooled (scope : Scope) : Scope :=
  { scope with pooled := scope.pooled + 1 }

/-- Counts a logic for which no lease was had. -/
def countInlined (scope : Scope) : Scope :=
  { scope with inlined := scope.inlined + 1 }

/-- Keeps the first failure, and counts any later one. -/
def recordFailure (scope : Scope) (failure : TaskError) : Scope :=
  match scope.firstFailure with
  | none => { scope with firstFailure := some failure }
  | some _ => { scope with suppressed := scope.suppressed + 1 }

/-- Records how a logic ended; success leaves no trace. -/
def record (scope : Scope) : Except TaskError Unit → Scope
  | .ok _ => scope
  | .error failure => scope.recordFailure failure

/-- Whether to record an outcome is a panic: a later failure is dropped once it has been counted. -/
def unwindsOn (scope : Scope) : Except TaskError Unit → Bool
  | .ok _ => false
  | .error failure => scope.firstFailure.isSome && failure.isVolatile

def complete (scope : Scope) : Scope :=
  { scope with completed := scope.completed + 1 }

/-- Counts a logic that is over, unless a panic has unwound its end. -/
def countOver (scope : Scope) (unwound : Bool) : Scope :=
  if unwound then scope else scope.complete

/-- To record an outcome is to change nothing but the failures. -/
theorem record_rest (scope : Scope) (outcome : Except TaskError Unit) :
    ∃ suppressed firstFailure, scope.record outcome = { scope with suppressed, firstFailure } := by
  rcases outcome with error | _
  · rw [record, recordFailure]
    split
    · exact ⟨scope.suppressed, some error, rfl⟩
    · exact ⟨scope.suppressed + 1, scope.firstFailure, rfl⟩
  · exact ⟨scope.suppressed, scope.firstFailure, rfl⟩

theorem countOver_eq (scope : Scope) (unwound : Bool) :
    scope.countOver unwound = { scope with completed := scope.completed + (!unwound).toNat } := by
  cases unwound <;> rfl

/-- The scope's context begins to wait for the logics that are not over. -/
def drain (scope : Scope) : Scope :=
  match scope.state with
  | .accepting => { scope with state := .draining }
  | .draining | .closed => scope

/-- Whether every logic submitted is over. -/
def isSettled (scope : Scope) : Bool :=
  scope.dispatched ≤ scope.completed

/-- Closes the scope and hands its first failure out. -/
def close (scope : Scope) : Option TaskError × Scope :=
  (scope.firstFailure, { scope with state := .closed, firstFailure := none })

/-- A scope is shown by its number, counted from 1. -/
def number (id : ScopeId) : Nat :=
  id + 1

def display (id : ScopeId) : String :=
  Text.variant "Scope" (toString (number id))

def form (scope : Scope) (id : ScopeId) : String :=
  Text.record "ConcurrentScope"
    [("id", Text.variant "ScopeId" (toString (number id))),
     ("concurrency", toString scope.concurrency), ("state", scope.state.name)]

end Scope

end ScopedWork
