import ScopedWork.Text.Hidden

/-! # Quoted texts

How a text is written between double quotes: a quote and a backslash take a backslash before
them, four controls have a letter of their own, and every other hidden character is written by
its number in hexadecimal, as in `\u{301}`.
-/

namespace ScopedWork.Text

/-- The digits of a number in base sixteen, without leading zeros. -/
def hexadecimal (n : Nat) : List Char :=
  Nat.toDigits 16 n

/-- How one character is written inside the quotes. -/
def written (c : Char) : List Char :=
  if c = '\x00' then ['\\', '0']
  else if c = '\t' then ['\\', 't']
  else if c = '\r' then ['\\', 'r']
  else if c = '\n' then ['\\', 'n']
  else if c = '"' then ['\\', '"']
  else if c = '\\' then ['\\', '\\']
  else if isHidden c then ['\\', 'u', '\x7b'] ++ hexadecimal c.toNat ++ ['\x7d']
  else [c]

/-- The text between double quotes, each character as `written`. -/
def quoted (text : String) : String :=
  String.ofList ('"' :: (text.toList.flatMap written ++ ['"']))

end ScopedWork.Text
