/-
JSON values, the form in which conditions and domain identities are stored.

Reading either of them only asks whether a value is a text, a null or an object
with one member; numbers are kept as mantissa and decimal exponent so that no
value of the format is lost.
-/

set_option autoImplicit false

namespace TaggedStatus

/-- A JSON value. -/
inductive Json where
  | null
  | bool (value : Bool)
  /-- The number `mantissa * 10 ^ (-exponent)`. -/
  | number (mantissa : Int) (exponent : Nat)
  | text (value : String)
  | list (items : List Json)
  /-- The members of an object, each name at most once. -/
  | object (members : List (String × Json))
  deriving Inhabited

end TaggedStatus
