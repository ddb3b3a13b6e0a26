import ScopedWork.Program.Wait

/-! # Bursts and sums

Many small logics that leave nothing in the log: a burst submits them to one scope, one after the
other, and a sum splits a range in two for as long as it is too long for a single logic. What they
add up is the tally of the session.
-/

namespace ScopedWork.Program

open Failure (ContextError)

variable (onward : Onward)

/-- Submits a quiet logic to a scope, given by what it does on its thread. -/
def submitQuietly (thread : ThreadId) (scope : ScopeId) (ending : Ending)
    (body : ThreadId → Run Unit) : Run Unit := do
  let (work, placement) ← Run.tryOnSystem (·.submit thread scope)
  let _ ← runPlaced thread work placement none fun thread =>
    asProgram onward thread work { label := "", quiet := true } ending do
      body thread
      return []

/-- Adds to the tally of the running burst or sum, which is a machine word and wraps. -/
def addToTally (amount : Nat) : Run Unit :=
  Run.change fun session =>
    { session with tally := (session.tally + amount) % Setting.wordBound }

def rangeSum (low high : Nat) : Nat :=
  (high - low) * (low + high - 1) / 2

/-- Adds a range of numbers up: at most `leaf` of them at once, more by two logics that add up one
half each. The range has at most `size` numbers. -/
def sumRange (leaf : Nat) : (size : Nat) → ThreadId → (low high : Nat) → Run (Option ContextError)
  | 0, _, low, high => do
    addToTally (rangeSum low high)
    return none
  | size + 1, thread, low, high => do
    if high - low ≤ max leaf 1 then
      addToTally (rangeSum low high)
      return none
    else
      let middle := low + (high - low) / 2
      insideHidden onward thread fun scope => do
        submitQuietly onward thread scope .success fun thread => do
          let _ ← sumRange leaf size thread low middle
        submitQuietly onward thread scope .success fun thread => do
          let _ ← sumRange leaf size thread middle high

/-- How the logic of a number ends in a burst in which every `failEvery`-th fails. -/
def burstEnding (failEvery index : Nat) : Ending :=
  if 0 < failEvery ∧ index % failEvery = 0 then .fail (.text "burst failure") else .success

def burstLogics (thread : ThreadId) (scope : ScopeId) (failEvery : Nat) :
    (left index : Nat) → Run Unit
  | 0, _ => return
  | left + 1, index => do
    submitQuietly onward thread scope (burstEnding failEvery index) fun _ => addToTally index
    burstLogics thread scope failEvery left (index + 1)

def burstReply (sum : Nat) (scope : Scope) : Reply :=
  .burst
    { sum, dispatched := scope.dispatched, completed := scope.completed
      ran := scope.pooled + scope.inlined, suppressed := scope.suppressed
      settled := scope.isSettled }

end ScopedWork.Program
