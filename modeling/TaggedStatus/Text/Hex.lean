/-
Hexadecimal digits as characters.

A digit is shown in lower case, by `Nat.digitChar`, and read in either case.
-/

set_option autoImplicit false

namespace TaggedStatus.Hex

/-- The value of a hexadecimal digit, in either letter case. -/
def digitValue? (c : Char) : Option Nat :=
  if '0' ≤ c ∧ c ≤ '9' then some (c.toNat - '0'.toNat)
  else if 'a' ≤ c ∧ c ≤ 'f' then some (c.toNat - 'a'.toNat + 10)
  else if 'A' ≤ c ∧ c ≤ 'F' then some (c.toNat - 'A'.toNat + 10)
  else none

/-- A digit that is shown is read back. -/
theorem digitValue?_digitChar :
    ∀ {d : Nat}, d < 16 → digitValue? (Nat.digitChar d) = some d := by
  decide

/-- Digits that are shown are read back. -/
theorem mapM_digitValue?_digitChar {ds : List Nat} (hlt : ∀ d ∈ ds, d < 16) :
    (ds.map Nat.digitChar).mapM digitValue? = some ds := by
  induction ds with
  | nil => rfl
  | cons d ds ih =>
      rw [List.forall_mem_cons] at hlt
      simp [digitValue?_digitChar hlt.1, ih hlt.2]

end TaggedStatus.Hex
