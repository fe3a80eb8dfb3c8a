/-
Raw codes are compared as numbers.

The condition nearest to a raw code is the one that has its number, and codes are also
compared by condition. So two raw codes would be equal if one condition stood for both of
their numbers, and a raw code would equal a code of another domain, or a condition, by
something else than its number. None of this happens. The search by number finds a condition
under its own number and under no other, so a raw code shares its condition with those whose
condition has its number (`raw_sameCondition_iff`), and the many numbers to which no condition
belongs share it with nobody.

The numbers are compared as integers. That of the unknown condition is -1, which is below
every raw code, also below the one whose thirty-two bits it would have.
-/
import TaggedStatus.Proofs.Equivalence.Family

set_option autoImplicit false

namespace TaggedStatus

/-- Between codes of different identities there is no link but by condition. -/
theorem Face.linked_iff_of_id_ne {S : Setting} {x y : Face S} (h : x.id ≠ y.id) :
    x.Linked y ↔ x.SameCondition y := by
  constructor
  · rintro (⟨hid, -⟩ | hcondition)
    · exact absurd hid h
    · exact hcondition
  · exact .inr

namespace Catalog

variable {amb : setting.Ambient} {depth : Nat} {v w : UInt32}

/-! ## Conditions of raw codes -/

/-- A raw code shares its condition with what has a condition of its number. -/
theorem raw_sameCondition_iff {y : Face setting} :
    ((Code.typed raw v).face amb).SameCondition y ↔ y.condition.number = v.toNat := by
  constructor
  · rintro ⟨hcondition, hknown⟩
    change raw.condition amb v = y.condition at hcondition
    change raw.condition amb v ≠ .unknown at hknown
    rw [hcondition] at hknown
    exact (raw_condition_eq_iff hknown).mp hcondition
  · intro hnumber
    have hknown : y.condition ≠ .unknown := Condition.ne_unknown_of_number hnumber
    have hcondition : raw.condition amb v = y.condition :=
      (raw_condition_eq_iff hknown).mpr hnumber
    exact Face.SameCondition.symm ⟨hcondition.symm, hknown⟩

/-- Raw codes are linked if they are the same number, by whichever link. -/
theorem raw_linked_iff :
    ((Code.typed raw v).face amb).Linked ((Code.typed raw w).face amb) ↔ v = w := by
  constructor
  · rintro (hvalue | hcondition)
    · exact (sameValue_iff_of_mem_family raw_mem_family).mp hvalue
    · -- The condition has the numbers of both codes.
      have hv : (raw.condition amb w).number = v.toNat := raw_sameCondition_iff.mp hcondition
      have hw : (raw.condition amb v).number = w.toNat :=
        raw_sameCondition_iff.mp hcondition.symm
      have hshared : raw.condition amb v = raw.condition amb w := hcondition.1
      rw [hshared, hv] at hw
      rw [← UInt32.toNat_inj]
      omega
  · intro hvw
    exact .inl ((sameValue_iff_of_mem_family raw_mem_family).mpr hvw)

/-! ## Comparisons with a raw code -/

section Equals

variable {x y : Operand setting}

theorem equals_raw_iff (hx : Code.MadeFrom raw v x.anyCode.code)
    (hy : Code.MadeFrom raw w y.anyCode.code) : x.equals amb depth y = true ↔ v = w := by
  rw [Operand.equals_iff_linked isFamily_family raw_mem_family raw_mem_family
    (comparesCoherently_of_mem_family amb raw_mem_family) hx hy]
  exact raw_linked_iff

/-- A raw code equals a code of another domain of the family if the condition of that has
its number. -/
theorem equals_raw_foreign_iff {E : Domain setting} {u : E.Value} (hE : E ∈ family)
    (hid : raw.id ≠ E.id) (hx : Code.MadeFrom raw v x.anyCode.code)
    (hy : Code.MadeFrom E u y.anyCode.code) :
    x.equals amb depth y = true ↔ (E.condition amb u).number = v.toNat := by
  have hfaces : ((Code.typed raw v).face amb).id ≠ ((Code.typed E u).face amb).id :=
    fun h => hid (Option.some.inj h)
  rw [Operand.equals_iff_linked isFamily_family raw_mem_family hE
    (comparesCoherently_of_mem_family amb raw_mem_family) hx hy, Face.linked_iff_of_id_ne hfaces]
  exact raw_sameCondition_iff

end Equals

/-- **Raw codes are equal exactly as numbers**, whether typed, erased or in failures. Two of
them are equal if they are the same number. A raw code equals a condition, on either side, if
the condition has its number; so it never equals the unknown one, and from 2^31 on it equals
none. It equals a code of `http` if that has a known condition with its number. And it is
success if its condition is. -/
theorem raw_equals_as_number {x : Operand setting} (hx : Code.MadeFrom raw v x.anyCode.code)
    (amb : setting.Ambient) (depth : Nat) :
    (∀ (w : UInt32) (y : Operand setting), Code.MadeFrom raw w y.anyCode.code →
      (x.equals amb depth y = true ↔ v = w))
    ∧ (∀ c : Condition,
        (x.equals amb depth (.condition c) = true ↔ c.number = v.toNat)
        ∧ (Operand.condition c).equals amb depth x = x.equals amb depth (.condition c)
        ∧ (c = .unknown ∨ 0x80000000 ≤ v.toNat → x.equals amb depth (.condition c) = false))
    ∧ (∀ (h : UInt16) (y : Operand setting), Code.MadeFrom http h y.anyCode.code →
        (x.equals amb depth y = true
          ↔ http.condition amb h ≠ .unknown ∧ (http.condition amb h).number = v.toNat))
    ∧ (x.anyCode.code.success amb = true ↔ x.anyCode.code.condition amb = .success) := by
  refine ⟨fun w y hy => equals_raw_iff hx hy, ?_, ?_, ?_⟩
  · intro c
    have hequals : x.equals amb depth (.condition c) = true ↔ c.number = v.toNat :=
      equals_raw_foreign_iff (y := .condition c) generic_mem_family (by decide) hx .typed
    refine ⟨hequals, Operand.equals_comm amb depth _ _, ?_⟩
    intro hout
    rw [Bool.eq_false_iff, ne_eq, hequals]
    intro hnumber
    rcases hout with hunknown | hlarge
    · exact Condition.ne_unknown_of_number hnumber hunknown
    · have hsmall : c.number < 0x80000000 := c.number_lt
      omega
  · intro h y hy
    rw [equals_raw_foreign_iff http_mem_family (by decide) hx hy, iff_and_self]
    exact Condition.ne_unknown_of_number
  · rw [hx.success_eq, hx.condition_eq]
    exact raw_success_iff

/-- The raw code with the bits of -1, narrowed, is not the unknown condition; and the raw
code 16 equals what is busy in `http`, also when both are narrowed. -/
theorem raw_equals_as_number_narrowed :
    let amb : setting.Ambient := .empty
    let last : Operand setting :=
      .code (.narrow raw ⟨.uint32, rfl, by decide⟩ (0xffffffff : UInt32) : Code _ (.erased .w4))
    let sixteen : Operand setting :=
      .code (.narrow raw ⟨.uint32, rfl, by decide⟩ (16 : UInt32) : Code _ (.erased .w8))
    let unavailable : Operand setting :=
      .code (.narrow http ⟨.uint16, rfl, by decide⟩ (503 : UInt16) : Code _ (.erased .w32))
    last.equals amb Catalog.depth (.condition .unknown) = false
      ∧ sixteen.equals amb Catalog.depth unavailable = true := by
  intro amb last sixteen unavailable
  have hlast := raw_equals_as_number (x := last) (.narrow _) amb Catalog.depth
  have hsixteen := raw_equals_as_number (x := sixteen) (.narrow _) amb Catalog.depth
  exact ⟨(hlast.2.1 .unknown).2.2 (.inl rfl),
    (hsixteen.2.2.1 503 unavailable (.narrow _)).mpr ⟨by decide, by decide⟩⟩

end Catalog

end TaggedStatus
