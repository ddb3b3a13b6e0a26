import ScopedWork.Text.Blank

/-! # The numbers a setting may be given as text

A setting is a machine word written in decimal: blanks around it and one plus sign before it are
allowed, as are leading zeros. `readWord?` accumulates digit by digit and gives up as soon as the
value leaves the word, so no text is ever read as a wrapped number.
-/

namespace ScopedWork.Setting

/-- The first number beyond a machine word. -/
def wordBound : Nat := Nat.pow 2 64

def digit? (c : Char) : Option Nat :=
  if '0' ≤ c ∧ c ≤ '9' then some (c.toNat - '0'.toNat) else none

/-- Appends digits to a value, as long as all are digits and the value stays in the word. -/
def appendDigits? : Nat → List Char → Option Nat
  | value, [] => some value
  | value, c :: rest =>
    match digit? c with
    | none => none
    | some d =>
      let grown := value * 10 + d
      if grown < wordBound then appendDigits? grown rest else none

/-- A word is at least one digit. -/
def readDigits? : List Char → Option Nat
  | [] => none
  | digits => appendDigits? 0 digits

/-- One plus sign may stand before the digits. -/
def readUnsigned? : List Char → Option Nat
  | '+' :: digits => readDigits? digits
  | digits => readDigits? digits

/-- Reads a word with blanks around it. -/
def readWord? (text : String) : Option Nat :=
  readUnsigned? (Text.trim text.toList)

end ScopedWork.Setting
