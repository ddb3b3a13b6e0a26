import ScopedWork.System.Names
import ScopedWork.Failure.Message

/-! # What operations answer

The answer of each kind of operation, the reasons why an operation makes no sense where it stands,
and the events that running programs leave in the log.
-/

namespace ScopedWork.Program

open Failure (ContextError Payload StateError)

/-- What a name was expected to stand for. -/
inductive Noun where
  | pool
  | lease
  | scope
  | context
  | object
  | snapshot
  | factory
  deriving DecidableEq, Repr

/-- Why an operation makes no sense; such an operation does nothing. -/
inductive Fault where
  | noSuch (noun : Noun)
  | nameInUse
  | unknownOperation
  | unknownKind
  /-- Only a job has a lease of its own. -/
  | noLease
  | noLogics
  /-- The last error has no panic. -/
  | noPanic
  /-- It would wait for something that waits for it. -/
  | wouldBlock
  deriving DecidableEq, Repr

/-- How far a work has come when its submitter goes on. -/
inductive Standing where
  | done
  | holding
  | queued
  deriving DecidableEq, Repr

/-- Whether each reader of the setting sees the hardware's default. -/
structure HardwareSeen where
  concurrency : Bool
  config : Bool
  pool : Bool
  root : Bool
  current : Bool
  deriving DecidableEq, Repr

/-- The counts of a scope after a burst of logics, and what they added up to. -/
structure BurstCounts where
  sum : Nat
  dispatched : Nat
  completed : Nat
  ran : Nat
  suppressed : Nat
  settled : Bool
  deriving DecidableEq, Repr

inductive Reply where
  | nothing
  | ok
  | fault (fault : Fault)
  | flag (value : Bool)
  | number (value : Nat)
  | text (text : String)
  /-- A value that programs only pass on, as it was given. -/
  | value (value : String)
  /-- The name of what was there before, if anything was. -/
  | previous (name : Option String)
  | replies (replies : List Reply)
  -- pools and leases
  | poolMade (capacity : Nat) (form : String)
  | poolInfo (capacity busy spawned : Nat) (form : String)
  | globalPool (capacity busy spawned : Nat) (shared : Bool)
  | acquired (slot : Option Nat)
  | lease (slot : Nat) (form : String)
  | freed (slot : Nat)
  | dropped (gone : Bool) (joined : Option Bool)
  -- scopes
  | entered (scope : ScopeId) (concurrency : Nat)
  | standardRoot (scope : ScopeId) (concurrency : Nat) (same : Bool)
  | stats (id : ScopeId) (scope : Scope)
  | scopeInfo (id : ScopeId) (scope : Scope) (capacity : Nat) (hasParent : Bool)
  | scope (id : Option ScopeId)
  -- works
  | placed (onHelper : Bool)
  | standing (standing : Standing)
  | notHolding
  /-- A hold has ended. -/
  | released
  /-- A hold was passed, since the program runs on its submitter's thread. -/
  | passed
  | burst (counts : BurstCounts)
  | summed (sum : Nat) (joined : Option ContextError)
  -- failures
  | joined (error : Option ContextError)
  | lastError (error : Option ContextError)
  | payload (payload : Option Payload)
  | panicked (payload : Payload)
  | returned (value : String)
  | checked (error : Option StateError)
  -- stacks
  | context (context : Option Context)
  | snapshot (stack : Stack)
  | insideDepth (depth : Nat)
  | depths (before after : Nat)
  -- the setting
  | config (config : Setting.Config) (matchesHardware : Bool)
  | refused (refusal : Setting.Refusal)
  | hardware (seen : HardwareSeen)

instance : Inhabited Reply := ⟨.nothing⟩

inductive Title where
  | word (text : String)
  /-- No word: whatever value stood in its place, as it was given. -/
  | value (value : String)
  deriving DecidableEq, Repr

/-- What running programs leave in the log. -/
inductive Event where
  | started (label threadName : String)
  | replied (label : String) (operation : Title) (reply : Reply)
  | holding (label : String)
  | ended (label : String)
  /-- A join with holding logics has begun to wait. -/
  | draining (id : ScopeId) (scope : Scope)
  /-- The drop of a pool has begun to wait. -/
  | poolDropping

end ScopedWork.Program
