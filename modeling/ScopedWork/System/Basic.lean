import ScopedWork.Scope
import ScopedWork.Setting.Fixed

/-! # The state of a process

Everything that contexts, pools and threads keep, in one value: the scopes, pools and works in
order of creation, the threads with the programs they run, the registry of root scopes, the
setting, the payloads of caught panics, and the names under which references are shared.

A thread runs a chain of *activations*, one inside the other: its own program, or the work it was
handed, and on top of it the logics that it runs inline. An activation owns the contexts it has
entered and the leases it has acquired.
-/

namespace ScopedWork

open Failure (Cells ContextError StateError TaskError)

/-- Ownership of one slot of a pool. -/
structure Lease where
  pool : PoolId
  slot : Nat
  deriving DecidableEq, Repr

def Lease.form (lease : Lease) : String :=
  Text.record "Lease" [("slot", toString lease.slot)]

/-- What a work is to the one who submitted it. -/
inductive WorkKind where
  /-- A logic of a scope. -/
  | logic (scope : ScopeId)
  /-- A job that was dispatched through a lease. -/
  | job
  deriving DecidableEq, Repr

inductive Placement where
  /-- On the submitting thread, since no slot was to be had. -/
  | inline
  /-- On a helper, which has begun it. -/
  | helper (thread : ThreadId)
  /-- In the channel of a helper that is still busy. -/
  | queued
  /-- On the submitting thread although a slot was had, since its helper is gone. -/
  | returned
  deriving DecidableEq, Repr

/-- How far a work has come. -/
inductive WorkPhase where
  | waiting
  | running
  /-- Its outcome is recorded. -/
  | recorded
  /-- It has given its lease back. -/
  | vacated
  | over
  /-- It was lost in the channel of a helper that died. -/
  | discarded
  deriving DecidableEq, Repr

/-- A logic or a job that has been submitted. -/
structure Work where
  kind : WorkKind
  submitter : ThreadId
  /-- The work during which it was submitted. -/
  within : Option WorkId
  placement : Placement
  /-- The slot it was dispatched through. -/
  station : Option Lease
  /-- Whether it still holds the lease of that slot. -/
  leased : Bool
  phase : WorkPhase := .waiting
  /-- The submitter's stack, which the work is to see once it begins. -/
  snapshot : Option Stack := none
  /-- The threads that have begun it, latest first. -/
  runs : List ThreadId := []
  /-- Whether it was over with a failure. -/
  failed : Bool := false
  /-- Whether a panic has unwound the end of it, so that its scope does not count it. -/
  unwound : Bool := false
  deriving DecidableEq, Repr

instance : Inhabited Work :=
  ⟨{ kind := .job, submitter := 0, within := none, placement := .queued, station := none,
     leased := false }⟩

/-- Who may use a context. -/
inductive Tenure where
  /-- The program that entered it, under a name. -/
  | owned (name : String)
  /-- A block of operations, to which it is lent under a name. -/
  | lent (name : String)
  /-- Nobody but the operation that entered it. -/
  | hidden
  deriving DecidableEq, Repr

/-- A context entered and not yet left. -/
structure Handle where
  scope : ScopeId
  tenure : Tenure
  deriving DecidableEq, Repr

/-- What an activation runs. -/
inductive Role where
  /-- The thread's own program. -/
  | program
  | work (id : WorkId)
  deriving DecidableEq, Repr

/-- How a context is being left. -/
inductive Departure where
  /-- Through its exit; out of order, if that is refused. -/
  | exit (refused : Option StateError)
  /-- By dropping it. -/
  | drop
  deriving DecidableEq, Repr

/-- One program in the course of being run by a thread. -/
structure Activation where
  role : Role := .program
  /-- The work on whose behalf it runs. -/
  within : Option WorkId := none
  /-- Its contexts, latest first. -/
  handles : List Handle := []
  /-- Its leases, latest first. -/
  leases : List (String × Lease) := []
  /-- The stacks that attached snapshots have set aside, latest first. -/
  saved : List Stack := []
  /-- The context it is leaving, and how. -/
  leaving : Option (ScopeId × Departure) := none
  /-- What its last join reported, if that was an error. -/
  lastError : Option ContextError := none
  deriving DecidableEq, Repr

instance : Inhabited Activation := ⟨{}⟩

/-- A thread: its stack of contexts and what it runs, innermost activation first. -/
structure Thread where
  name : String
  stack : Stack := {}
  activations : List Activation := []
  deriving DecidableEq, Repr

instance : Inhabited Thread := ⟨{ name := "" }⟩

/-- The number of a factory, counted from 0 in the order of creation. -/
abbrev FactoryId := Nat

/-- Where a factory takes a root from. -/
inductive RootSource where
  /-- A scope that it knows. -/
  | scope (id : ScopeId)
  /-- A new root over a pool. -/
  | fresh (pool : PoolId) (concurrency : Nat)
  /-- The standard root of the process. -/
  | standard
  deriving DecidableEq, Repr

/-- A supplier of root scopes, which counts how often it is asked. -/
structure Factory where
  name : String
  /-- Where it will take the next root from. -/
  source : RootSource
  lookups : Nat := 0
  deriving DecidableEq, Repr

/-- What a shared name stands for. -/
inductive Entry where
  | pool (id : PoolId)
  | scope (id : ScopeId)
  | object (kind : ObjectKind)
  | snapshot (stack : Stack)
  | factory (id : FactoryId)
  deriving DecidableEq, Repr

/-- The state of a process. -/
structure System where
  scopes : List Scope := []
  pools : List (Pool WorkId) := []
  works : List Work := []
  threads : List Thread := []
  factories : List Factory := []
  /-- The factory that supplies the roots. -/
  registered : Option FactoryId := none
  /-- The pool shared by the whole process, once it is made. -/
  globalPool : Option PoolId := none
  /-- The root over the global pool, once it is made. -/
  standardRoot : Option ScopeId := none
  setting : Setting.State
  cells : Cells := {}
  /-- The shared names, latest first. -/
  directory : List (String × Entry) := []
  deriving DecidableEq, Repr

namespace System

variable (system : System)

/-! ## Reading -/

def scope (id : ScopeId) : Scope :=
  system.scopes[id]?.getD default

def pool (id : PoolId) : Pool WorkId :=
  system.pools[id]?.getD default

def work (id : WorkId) : Work :=
  system.works[id]?.getD default

def thread (id : ThreadId) : Thread :=
  system.threads[id]?.getD default

/-- What a thread runs now. -/
def activation (id : ThreadId) : Activation :=
  (system.thread id).activations.headD {}

def stack (id : ThreadId) : Stack :=
  (system.thread id).stack

/-! ## Changing one part -/

def modifyScope (id : ScopeId) (change : Scope → Scope) : System :=
  { system with scopes := system.scopes.modify id change }

def modifyPool (id : PoolId) (change : Pool WorkId → Pool WorkId) : System :=
  { system with pools := system.pools.modify id change }

def modifyWork (id : WorkId) (change : Work → Work) : System :=
  { system with works := system.works.modify id change }

def modifyThread (id : ThreadId) (change : Thread → Thread) : System :=
  { system with threads := system.threads.modify id change }

def modifyActivation (id : ThreadId) (change : Activation → Activation) : System :=
  system.modifyThread id fun thread =>
    { thread with activations := thread.activations.modifyHead change }

def setStack (id : ThreadId) (stack : Stack) : System :=
  system.modifyThread id ({ · with stack })

/-! ## Adding -/

/-- Adds a scope; its number is the count of the scopes before it. -/
def addScope (scope : Scope) : ScopeId × System :=
  (system.scopes.length, { system with scopes := system.scopes ++ [scope] })

def addPool (pool : Pool WorkId) : PoolId × System :=
  (system.pools.length, { system with pools := system.pools ++ [pool] })

def addThread (thread : Thread) : ThreadId × System :=
  (system.threads.length, { system with threads := system.threads ++ [thread] })

def addFactory (factory : Factory) : FactoryId × System :=
  (system.factories.length, { system with factories := system.factories ++ [factory] })

def addWork (work : Work) : WorkId × System :=
  (system.works.length, { system with works := system.works ++ [work] })

end System

end ScopedWork
