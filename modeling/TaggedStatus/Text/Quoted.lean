/-
Text as it is shown to a developer: between double quotes, with the characters
that would be misread written as escapes.

A quote, a backslash, a tab, the two line-end characters and NUL have escapes of
their own. A character is written by its number if a reader would not see it
there: one that shows nothing, and one that would be drawn on the character
before it. All the rest, letters of any script included, stands for itself; a
single quote is not escaped.
-/
import TaggedStatus.Text.Combining
import TaggedStatus.Text.Unprintable

set_option autoImplicit false

namespace TaggedStatus.Quoted

/-- Would a reader not see this character as one of its own? -/
def isHidden (c : Char) : Bool :=
  CharClass.unprintable.contains c || CharClass.filler.contains c
    || CharClass.combining.contains c

/-- The digits of a number in base sixteen, lower case, without leading zeros. -/
def hexNumber (n : Nat) : List Char :=
  Nat.toDigits 16 n

/-- One character, escaped if it needs to be. -/
def escape (c : Char) : List Char :=
  if c = '"' then ['\\', '"']
  else if c = '\\' then ['\\', '\\']
  else if c = '\n' then ['\\', 'n']
  else if c = '\r' then ['\\', 'r']
  else if c = '\t' then ['\\', 't']
  else if c = '\x00' then ['\\', '0']
  else if isHidden c then ['\\', 'u', '\x7b'] ++ hexNumber c.toNat ++ ['\x7d']
  else [c]

/-- A text between quotes. -/
def quote (s : String) : String :=
  String.ofList ('"' :: s.toList.flatMap escape ++ ['"'])

end TaggedStatus.Quoted
