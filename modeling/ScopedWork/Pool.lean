import ScopedWork.Failure.Payload
import ScopedWork.Setting.Config

/-! # Pools of helper threads

A pool has a fixed number of slots, each backed by at most one helper thread, which is started
when the slot is first leased. A lease is acquired without waiting: the least free slot below a
bound, or none; but to start a helper under a name that no thread can have is a panic. A job
dispatched through a lease goes to the slot's helper over the slot's channel. A job may give up its
lease and go on running, so the next lease of the slot may find the helper still busy; its job then
waits in the channel, which has room for one.

The channel's two ends are separate facts: `sender` says whether the pool still has its end, and
`helper` whether a thread still listens. A helper that has died leaves a stale sender behind, which
the next dispatch discovers; that job runs on the dispatching thread, and the slot starts a new
helper when it is next leased.
-/

namespace ScopedWork

open Failure (Payload)

/-- The number of a pool, counted from 0 in the order of creation. -/
abbrev PoolId := Nat

/-- The number of a thread, counted from 0 in the order in which threads are started. -/
abbrev ThreadId := Nat

/-- The helper thread of a slot. -/
inductive Helper (Job : Type) where
  /-- No thread: never started, dead, or dismissed. -/
  | absent
  /-- A thread that waits for a job. -/
  | idle (thread : ThreadId)
  /-- A thread that runs a job. -/
  | busy (thread : ThreadId) (job : Job)
  deriving DecidableEq, Repr

structure Slot (Job : Type) where
  /-- Whether a lease of the slot is live. -/
  leased : Bool := false
  /-- Whether the pool has its end of the channel. -/
  sender : Bool := false
  helper : Helper Job := .absent
  /-- The job in the channel. -/
  waiting : Option Job := none
  /-- Whether the system, for now, refuses to start a thread for it. -/
  barred : Bool := false
  deriving DecidableEq, Repr

instance {Job : Type} : Inhabited (Slot Job) := ⟨{}⟩

/-- A slot whose channel has been cut: an idle helper leaves at once, a busy one after what it
runs and what waits for it. -/
def Slot.cut {Job : Type} (slot : Slot Job) : Slot Job :=
  { slot with
    sender := false
    helper := match slot.helper with
      | .absent | .idle _ => .absent
      | .busy thread job => .busy thread job }

/-- A pool of helper threads that run jobs. -/
structure Pool (Job : Type) where
  slots : List (Slot Job)
  /-- How many leases are live. -/
  busy : Nat := 0
  /-- How many helper threads have been started so far. -/
  spawned : Nat := 0
  /-- The helper threads started and not yet awaited. -/
  workers : List ThreadId := []
  /-- Whether nothing refers to the pool any more, so that its helpers have been dismissed. -/
  dropped : Bool := false
  nameStem : String
  stackSize : Option Nat
  /-- The system has no stack of this many bytes or more; `none` if it has all. -/
  stackBound : Option Nat := none
  deriving DecidableEq, Repr

/-- Where a dispatched job went. -/
inductive Handoff where
  /-- Back to the dispatching thread: there is no helper to take it. -/
  | returned
  /-- To the helper, which was idle and has begun it. -/
  | begun (thread : ThreadId)
  /-- Into the channel, behind the job that the helper runs. -/
  | queued
  /-- Nowhere: the channel has no room. -/
  | blocked
  deriving DecidableEq, Repr

namespace Pool

variable {Job : Type}

instance : Inhabited (Pool Job) := ⟨{ slots := [], nameStem := "", stackSize := none }⟩

/-- A pool with a number of slots, none of them with a helper yet. -/
def ofConfig (capacity : Nat) (config : Setting.Config) (stackBound : Option Nat) : Pool Job :=
  { slots := List.replicate capacity {}, nameStem := config.nameStem, stackSize := config.stackSize,
    stackBound }

def capacity (pool : Pool Job) : Nat :=
  pool.slots.length

/-- The slot of a number; a number beyond the capacity gives a slot that is free and bare. -/
def slot (pool : Pool Job) (index : Nat) : Slot Job :=
  pool.slots[index]?.getD {}

def modifySlot (pool : Pool Job) (index : Nat) (change : Slot Job → Slot Job) : Pool Job :=
  { pool with slots := pool.slots.modify index change }

/-- Whether the system gives a slot's helper a thread, and the stack it is to have. -/
def canSpawn (pool : Pool Job) (index : Nat) : Bool :=
  !(pool.slot index).barred && match pool.stackSize, pool.stackBound with
    | some bytes, some bound => bytes < bound
    | _, _ => true

def helperName (pool : Pool Job) (index : Nat) : String :=
  pool.nameStem ++ "-" ++ toString index

/-- What starting a thread under a name panics with, if it does: a zero ends the name of a thread,
so there can be none among its bytes. The panic tells where the first one is, and lists the bytes. -/
def namePanic? (name : String) : Option Payload :=
  let bytes := name.toList.flatMap String.utf8EncodeChar
  (bytes.findIdx? (· == 0)).map fun place =>
    let listed := Text.listed (bytes.map fun byte => toString byte.toNat)
    .owned ("thread name may not contain interior null bytes: " ++
      Text.variant "NulError" (toString place ++ ", " ++ listed))

/-! ## Leases -/

/-- The least slot below a bound that is not leased. -/
def leastFree? (pool : Pool Job) (bound : Nat) : Option Nat :=
  (pool.slots.take bound).findIdx? fun slot => !slot.leased

def lease (pool : Pool Job) (index : Nat) : Pool Job :=
  { pool.modifySlot index ({ · with leased := true }) with busy := pool.busy + 1 }

/-- Gives a lease up: its slot is free again. -/
def release (pool : Pool Job) (index : Nat) : Pool Job :=
  { pool.modifySlot index ({ · with leased := false }) with busy := pool.busy - 1 }

/-- Starts the helper of a slot as a thread of the given number. -/
def spawn (pool : Pool Job) (index : Nat) (thread : ThreadId) : Pool Job :=
  { pool.modifySlot index ({ · with sender := true, helper := .idle thread }) with
    spawned := pool.spawned + 1
    workers := pool.workers ++ [thread] }

/-- A lease as it was acquired: its slot, and whether the slot's helper had to be started. -/
structure Acquired where
  slot : Nat
  started : Bool
  deriving DecidableEq, Repr

/-- Leases the least free slot below the limit, starting its helper as thread `thread` if it has
none; a helper that cannot be started costs the lease, also if the attempt to start it panics. -/
def tryAcquire (pool : Pool Job) (limit : Nat) (thread : ThreadId) :
    Except Payload (Option Acquired) × Pool Job :=
  match pool.leastFree? limit with
  | none => (.ok none, pool)
  | some index =>
    let held := pool.lease index
    if (pool.slot index).sender then (.ok (some { slot := index, started := false }), held)
    else
      match namePanic? (pool.helperName index) with
      | some payload => (.error payload, held.release index)
      | none =>
        if pool.canSpawn index then
          (.ok (some { slot := index, started := true }), held.spawn index thread)
        else (.ok none, held.release index)

/-! ## Jobs -/

def dispatch (pool : Pool Job) (index : Nat) (job : Job) : Handoff × Pool Job :=
  let slot := pool.slot index
  if slot.sender then
    match slot.helper, slot.waiting with
    | .absent, _ => (.returned, pool.modifySlot index ({ · with sender := false }))
    | .idle thread, _ =>
      (.begun thread, pool.modifySlot index ({ · with helper := .busy thread job }))
    | .busy _ _, none => (.queued, pool.modifySlot index ({ · with waiting := some job }))
    | .busy _ _, some _ => (.blocked, pool)
  else (.returned, pool)

/-- The helper of a slot has ended its job and takes the one that waits, if any; a helper whose
channel has been cut and is empty leaves. -/
def nextJob (pool : Pool Job) (index : Nat) : Option (ThreadId × Job) × Pool Job :=
  let slot := pool.slot index
  match slot.helper, slot.waiting with
  | .busy thread _, some job =>
    (some (thread, job),
      pool.modifySlot index ({ · with helper := .busy thread job, waiting := none }))
  | .busy thread _, none =>
    (none, pool.modifySlot index
      ({ · with helper := if slot.sender then .idle thread else .absent }))
  | .absent, _ | .idle _, _ => (none, pool)

/-- The helper of a slot dies, and the job in its channel is lost with it. -/
def helperDies (pool : Pool Job) (index : Nat) : Option Job × Pool Job :=
  ((pool.slot index).waiting, pool.modifySlot index ({ · with helper := .absent, waiting := none }))

/-! ## The end of a pool -/

/-- The pool is dropped: every channel is cut, and the helpers are left to finish. -/
def shutdown (pool : Pool Job) : Pool Job :=
  { pool with slots := pool.slots.map Slot.cut, workers := [], dropped := true }

/-- Whether no helper is left, but perhaps the thread that asks. -/
def isDrained (pool : Pool Job) (thread : ThreadId) : Bool :=
  pool.slots.all fun slot => match slot.helper with
    | .absent => true
    | .idle helper | .busy helper _ => helper == thread

/-- Whether a channel to some helper is still uncut. -/
def isConnected (pool : Pool Job) : Bool :=
  pool.slots.any (·.sender)

def form (pool : Pool Job) : String :=
  Text.record "WorkerPool"
    [("capacity", toString pool.capacity), ("busy", toString pool.busy),
     ("spawned", toString pool.spawned)]

end Pool

end ScopedWork
