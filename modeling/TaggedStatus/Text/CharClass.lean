/-
Classes of characters, given by ranges of character numbers.
-/

set_option autoImplicit false

namespace TaggedStatus

/-- A class of characters, as closed ranges of numbers. -/
structure CharClass where
  ranges : List (Nat × Nat)

/-- Is a character in a class? -/
def CharClass.contains (cls : CharClass) (c : Char) : Bool :=
  cls.ranges.any (fun (lo, hi) => decide (lo ≤ c.toNat ∧ c.toNat ≤ hi))

end TaggedStatus
