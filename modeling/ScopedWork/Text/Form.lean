import ScopedWork.Text.Quoted

/-! # The one-line form of a structured value

A record is written with its fields between braces, a variant with its arguments between
parentheses, a list between brackets. The forms nest, and none breaks the line.
-/

namespace ScopedWork.Text

/-- A record names its type, then each field with its value. -/
def record (name : String) (fields : List (String × String)) : String :=
  name ++ " \x7b " ++ ", ".intercalate (fields.map fun field => field.1 ++ ": " ++ field.2) ++ " \x7d"

/-- A variant names itself, then its argument in parentheses. -/
def variant (name argument : String) : String :=
  name ++ "(" ++ argument ++ ")"

/-- Either `None`, or the value as the argument of `Some`. -/
def optional : Option String → String
  | none => "None"
  | some value => variant "Some" value

/-- A list has its items in brackets. -/
def listed (items : List String) : String :=
  "[" ++ ", ".intercalate items ++ "]"

end ScopedWork.Text
