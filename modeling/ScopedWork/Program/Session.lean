import ScopedWork.Program.Op

/-! # The state of a run

The process together with what the run itself keeps: the log, the counters, and the works that
have stopped at a hold or wait for their helper. A stopped program is kept as a continuation, which
says what is left to do from the inside out: the rest of the block it stopped in, what the end of
that block completes, and so on up to the ending of the program. The blocks say as well what a
panic goes through.
-/

namespace ScopedWork.Program

open Failure (Payload)

/-- In whose name a program writes to the log. -/
structure Voice where
  label : String
  quiet : Bool := false
  deriving DecidableEq, Repr

mutual

/-- What is left once the operation `op` has answered: the rest of its block. The block has given
the answers `done` so far, and writes its answers to the log if `logged`. -/
inductive OpCont where
  | after (op : Title) (logged : Bool) (done : List Reply) (rest : List Op) (block : BlockCont)

/-- What the end of a block completes. -/
inductive BlockCont where
  /-- The program of a thread, which nothing can stop. -/
  | thread
  /-- The program of a work. -/
  | program (ending : Ending)
  | withContext (scope : ScopeId) (value : String) (panic : Option Payload) (outer : OpCont)
  | attach (panic : Option Payload) (outer : OpCont)
  /-- One of several repetitions, with `left` more to come and the answers of those before it. -/
  | repeated (left : Nat) (body : List Op) (done : List Reply) (outer : OpCont)

end

/-- A work that does not run now. -/
inductive Paused where
  /-- It has not begun. -/
  | fresh (logic : Logic Op)
  /-- It holds. -/
  | holding (voice : Voice) (rest : OpCont)

/-- The state of a run. -/
structure Session where
  system : System
  /-- The events since the previous answer, latest first. -/
  log : List Event := []
  paused : List (WorkId × Paused) := []
  counters : List (String × Nat) := []
  /-- What the logics of the running burst or sum have added up. -/
  tally : Nat := 0
  /-- Whether somebody waits for what will never be. -/
  hangs : Bool := false

namespace Session

variable (session : Session)

def setSystem (system : System) : Session :=
  { session with system }

def note (event : Event) : Session :=
  { session with log := event :: session.log }

/-- Appends an event that a program speaks of, unless it is quiet. -/
def say (voice : Voice) (event : Event) : Session :=
  if voice.quiet then session else session.note event

/-- From now on somebody waits for what will never be. -/
def hang : Session :=
  { session with hangs := true }

def pause (work : WorkId) (paused : Paused) : Session :=
  { session with paused := (work, paused) :: session.paused }

def unpause (work : WorkId) : Session :=
  { session with paused := session.paused.filter (·.1 ≠ work) }

def isHolding (work : WorkId) : Bool :=
  match session.paused.lookup work with
  | some (.holding _ _) => true
  | some (.fresh _) | none => false

def heldLabel? (work : WorkId) : Option String :=
  match session.paused.lookup work with
  | some (.holding voice _) => some voice.label
  | some (.fresh _) | none => none

/-- The earliest submitted of the works that hold and satisfy a condition. -/
def earliestHolding? (wanted : WorkId → Bool) : Option WorkId :=
  (List.range session.system.works.length).find? fun work => session.isHolding work && wanted work

/-- Whether a work is under way: begun, not over, and not holding. -/
def isUnderWay (work : WorkId) : Bool :=
  match (session.system.work work).phase with
  | .running | .recorded | .vacated => !session.isHolding work
  | .waiting | .over | .discarded => false

/-- How far a work has come when its submitter goes on. One that was lost is never done. -/
def standing (work : WorkId) : Standing :=
  match (session.system.work work).phase with
  | .waiting | .discarded => .queued
  | .running | .recorded | .vacated => .holding
  | .over => .done

def counter (name : String) : Nat :=
  (session.counters.lookup name).getD 0

/-- Adds to a counter, which is a machine word and wraps. -/
def addTo (name : String) (amount : Nat) : Session :=
  { session with
    counters := (name, (session.counter name + amount) % Setting.wordBound) ::
      session.counters.filter (·.1 ≠ name) }

/-- Whether something that a work submitted, directly or through others, is under way. -/
def awaitsDescendant (work : WorkId) : Bool :=
  let count := session.system.works.length
  (List.range count).any fun other =>
    session.isUnderWay other && session.system.isSubmittedDuring work count other

end Session

end ScopedWork.Program
