/-
The text of a domain identity.

An identity is shown as its 32 hexadecimal digits, lower case and with leading
zeros, in groups of 8, 4, 4, 4 and 12 with a hyphen between groups.
-/
import TaggedStatus.DomainId.Basic
import TaggedStatus.Numeral

set_option autoImplicit false

namespace TaggedStatus.DomainId

/-! ## Groups of digits -/

/-- Put a hyphen between groups of the given sizes; what is left after the last
size goes into the last group. -/
def hyphenate : List Nat → List Char → List Char
  | [], cs => cs
  | [_], cs => cs
  | size :: sizes, cs => cs.take size ++ '-' :: hyphenate sizes (cs.drop size)

/-- The sizes of the groups in which an identity is shown. -/
def groups : List Nat := [8, 4, 4, 4, 12]

/-- The 32 digits of an identity, lower case. -/
def digitChars (id : DomainId) : List Char :=
  (Numeral.digits 16 32 id.num).map Nat.digitChar

@[simp] theorem length_digitChars (id : DomainId) : id.digitChars.length = 32 := by
  simp only [digitChars, List.length_map, Numeral.length_digits]

/-! ## Texts -/

/-- The text of an identity (`Display for DomainId`). -/
def text (id : DomainId) : String :=
  String.ofList (hyphenate groups id.digitChars)

/-- The identity as it is shown to a developer (`Debug for DomainId`). -/
def debugText (id : DomainId) : String :=
  "DomainId(" ++ id.text ++ ")"

/-- The identity a developer sees where there may be none. -/
def debugTextOfOption : Option DomainId → String
  | none => "None"
  | some id => "Some(" ++ id.debugText ++ ")"

end TaggedStatus.DomainId
