import ScopedWork.Failure.Payload
import ScopedWork.Text.Form

/-! # Copies of one panic

Everything that can be done with copies of a caught panic. The copies are numbered in the order
in which they were made; a dropped copy keeps its number and can no longer be used.
-/

namespace ScopedWork.Failure

def Panic.form (panic : Panic) : String :=
  Text.variant "Panic" (Text.quoted panic.message)

/-- What is done with one copy. -/
inductive Handling where
  | copy
  | message
  | display
  | form
  | take
  | resume
  | drop
  /-- Something that cannot be done with a copy. -/
  | unknown
  deriving DecidableEq, Repr

/-- What came of it. -/
inductive Handled where
  /-- The number of the new copy. -/
  | copied (index : Nat)
  | text (text : String)
  /-- The payload, or nothing if it had been taken. -/
  | payload (payload : Option Payload)
  | dropped
  /-- There is no such copy, or it was dropped. -/
  | noSuchCopy
  | noSuchHandling
  deriving DecidableEq, Repr

/-- The copies made so far, and the cells with their payload. -/
structure Copies where
  cells : Cells
  copies : List (Option Panic)
  deriving DecidableEq, Repr

namespace Copies

def ofPayload (payload : Payload) : Copies :=
  let (panic, cells) := Cells.catchPanic {} payload
  { cells, copies := [some panic] }

def handle (copies : Copies) (handling : Handling) (index : Nat) : Handled × Copies :=
  match copies.copies[index]?.join with
  | none => (.noSuchCopy, copies)
  | some panic =>
    match handling with
    | .copy =>
      (.copied copies.copies.length, { copies with copies := copies.copies ++ [some panic] })
    | .message => (.text panic.message, copies)
    | .display => (.text panic.message, copies)
    | .form => (.text panic.form, copies)
    | .take =>
      let (payload, cells) := copies.cells.take panic
      (.payload payload, { copies with cells })
    | .resume =>
      let (payload, cells) := copies.cells.resume panic
      (.payload (some payload), { copies with cells })
    | .drop => (.dropped, { copies with copies := copies.copies.set index none })
    | .unknown => (.noSuchHandling, copies)

def handleAll : Copies → List (Handling × Nat) → List Handled × Copies
  | copies, [] => ([], copies)
  | copies, (handling, index) :: rest =>
    let (handled, copies) := copies.handle handling index
    let (results, copies) := copies.handleAll rest
    (handled :: results, copies)

end Copies

end ScopedWork.Failure
