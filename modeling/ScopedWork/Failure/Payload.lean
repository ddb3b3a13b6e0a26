/-! # Panic payloads

A panic carries a payload of any type and shares it between all its copies: the payload sits in a
cell, and whoever takes it first leaves the cell empty. The message is read off the payload when
the panic is caught and stays with every copy.
-/

namespace ScopedWork.Failure

/-- What a program panics with. -/
inductive Payload where
  /-- A fixed text. -/
  | literal (text : String)
  /-- A text made while running. -/
  | owned (text : String)
  /-- A value of another type that carries a number. -/
  | number (value : Int)
  /-- A value of any other type. -/
  | unit
  deriving DecidableEq, Repr

/-- The message of a panic: the payload's text, if it is one. -/
def Payload.message : Payload → String
  | .literal text => text
  | .owned text => text
  | .number _ | .unit => "unknown panic"

/-- The name of a cell that holds a payload. -/
abbrev CellId := Nat

/-- A caught panic: its message, and the cell of its payload. A copy of it is the same value. The
payloads above can be dropped; a panic is volatile if its payload panics in turn when it is dropped. -/
structure Panic where
  message : String
  cell : CellId
  volatile : Bool := false
  deriving DecidableEq, Repr

/-- The payload cells in the order in which their panics were caught. -/
structure Cells where
  contents : List (Option Payload) := []
  deriving DecidableEq, Repr

namespace Cells

/-- Catches a panic: its payload goes into a cell of its own. -/
def catchPanic (cells : Cells) (payload : Payload) : Panic × Cells :=
  ({ message := payload.message, cell := cells.contents.length },
    { contents := cells.contents ++ [some payload] })

def peek (cells : Cells) (cell : CellId) : Option Payload :=
  cells.contents[cell]?.join

/-- Takes the payload of a panic, if no copy has taken it yet. -/
def take (cells : Cells) (panic : Panic) : Option Payload × Cells :=
  (cells.peek panic.cell, { contents := cells.contents.set panic.cell none })

/-- The payload a resumed panic goes on with: the one it was caught with, or the message as a text
if somebody has taken that. -/
def resume (cells : Cells) (panic : Panic) : Payload × Cells :=
  let (payload, cells) := cells.take panic
  (payload.getD (.owned panic.message), cells)

end Cells

end ScopedWork.Failure
