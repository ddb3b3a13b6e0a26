/-! # Sets of code points given by ranges

A property of characters is kept as an ascending list of closed ranges of code points, so that
membership is one walk that stops at the first range beyond the code point.
-/

namespace ScopedWork.Text

/-- Closed ranges of code points, ascending and apart from each other. -/
abbrev Ranges := List (Nat × Nat)

/-- A code point is in the set when one of the ranges holds it. -/
def Ranges.holds : Ranges → Nat → Bool
  | [], _ => false
  | (low, high) :: rest, n => if n < low then false else n ≤ high || Ranges.holds rest n

end ScopedWork.Text
