/-
Outlines: the structure of a value as it is shown to a developer.

An outline is a word, a record of labelled fields, a tuple or a list. It has two
layouts. The flat one stands on one line. The tall one gives each part a line of
its own, four spaces deeper than what it is a part of and followed by a comma;
words stay on one line in both. A type that does not want to be shown in any of
these ways brings both of its layouts along.
-/

set_option autoImplicit false

namespace TaggedStatus

/-- The structure of a value as it is shown to a developer. -/
inductive Outline where
  /-- Something shown on one line in either layout. -/
  | word (text : String)
  /-- Labelled parts behind a name, in braces. -/
  | record (name : String) (fields : List (String × Outline))
  /-- Parts behind a name, which may be empty, in parentheses. -/
  | tuple (name : String) (items : List Outline)
  /-- Parts in square brackets. -/
  | list (items : List Outline)
  /-- Two layouts of its own: the flat text, and the lines of the tall one, of
  which there is at least one. -/
  | own (text : String) (line : String) (more : List String)

namespace Outline

/-! ## The flat layout -/

mutual

/-- An outline on one line. -/
def flat : Outline → String
  | .word text => text
  | .record name fields =>
      name ++ " \x7b " ++ ", ".intercalate (flatFields fields) ++ " \x7d"
  | .tuple name items => name ++ "(" ++ ", ".intercalate (flatItems items) ++ ")"
  | .list items => "[" ++ ", ".intercalate (flatItems items) ++ "]"
  | .own text _ _ => text

/-- Labelled parts, each on one line. -/
def flatFields : List (String × Outline) → List String
  | [] => []
  | (label, item) :: rest => (label ++ ": " ++ flat item) :: flatFields rest

/-- Parts, each on one line. -/
def flatItems : List Outline → List String
  | [] => []
  | item :: rest => flat item :: flatItems rest

end

/-! ## The tall layout -/

/-- Put a label before the first line. -/
def labelLines (label : String) : List String → List String
  | [] => []
  | line :: rest => (label ++ ": " ++ line) :: rest

/-- End the last line with a comma and move all lines in by one level. -/
def indentPart : List String → List String
  | [] => []
  | [line] => ["    " ++ line ++ ","]
  | line :: rest => ("    " ++ line) :: indentPart rest

/-- Put parts between an opening and a closing line; without parts the two stand
together. -/
def enclose (opening closing : String) (parts : List String) : List String :=
  if parts.isEmpty then [opening ++ closing] else opening :: parts ++ [closing]

mutual

/-- The lines of the tall layout. -/
def lines : Outline → List String
  | .word text => [text]
  | .record name fields => enclose (name ++ " \x7b") "\x7d" (linesOfFields fields)
  | .tuple name items => enclose (name ++ "(") ")" (linesOfItems items)
  | .list items => enclose "[" "]" (linesOfItems items)
  | .own _ line more => line :: more

/-- The lines of labelled parts, one level in. -/
def linesOfFields : List (String × Outline) → List String
  | [] => []
  | (label, item) :: rest => indentPart (labelLines label (lines item)) ++ linesOfFields rest

/-- The lines of parts, one level in. -/
def linesOfItems : List Outline → List String
  | [] => []
  | item :: rest => indentPart (lines item) ++ linesOfItems rest

end

/-- An outline with a line for each part. -/
def tall (o : Outline) : String :=
  "\n".intercalate o.lines

end Outline

end TaggedStatus
