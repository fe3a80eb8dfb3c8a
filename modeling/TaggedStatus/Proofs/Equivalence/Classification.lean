/-
Which conditions a code equals.

To compare a code with a condition is to compare it with a code of the generic domain,
so the four questions of equivalence are asked here too, two of them of a rule that may
be anything. But the other side is known this time, and two of its answers can be
computed. The generic domain recognises the code if that is the condition under the
generic identity, and it recognises the condition nearest to the code if that is the one
asked about. The remaining question, whether the code recognises the condition nearest
to the condition, is the first question again. So three ways are left in which a code
can equal a condition, and only the first of them is up to the code's domain
(`Status.equivalent_generic_iff`).

It follows that a domain can add to what its codes equal but not take away from it: a
code whose condition is known equals that condition even if its domain refuses
everything. The unknown condition is out of reach of the third way, and a domain with
the default rule and an identity of its own does not recognise it either.
-/
import TaggedStatus.Proofs.Equivalence.Symmetry

set_option autoImplicit false

namespace TaggedStatus

variable {S : Setting}

/-! ## Statuses against a condition -/

namespace Status

variable {depth : Nat} {x : Status S} {c : Condition}

/-- The three ways in which a status of some domain is equivalent to a condition. -/
theorem equivalent_generic_iff {i : DomainId} (hx : x.face.id = some i) :
    x.equivalent depth (generic c) = true
      ↔ x.recognisesStatus depth (generic c) = true
        ∨ (x.face.id = some .generic ∧ x.face.conditionHeld = some c)
        ∨ (x.face.condition = c ∧ c ≠ .unknown) := by
  have hnearest : (generic c : Status S).face.condition = c := rfl
  have hcompares : (generic c).recognisesStatus depth (generic x.face.condition : Status S) = true
      ↔ x.face.condition = c := by
    rw [generic_recognisesStatus_iff, conditionHeld_generic, and_iff_right (id_generic _)]
    exact Option.some_inj
  rw [equivalent_iff_of_some hx (id_generic c), generic_recognisesStatus_iff, hnearest, hcompares]
  constructor
  · rintro (hrecognised | hheld | ⟨-, hrecognised⟩ | ⟨hknown, hcondition⟩)
    · exact .inl hrecognised
    · exact .inr (.inl hheld)
    · exact .inl hrecognised
    · refine .inr (.inr ⟨hcondition, ?_⟩)
      rw [← hcondition]
      exact hknown
  · rintro (hrecognised | hheld | ⟨hcondition, hknown⟩)
    · exact .inl hrecognised
    · exact .inr (.inl hheld)
    · refine .inr (.inr (.inr ⟨?_, hcondition⟩))
      rw [hcondition]
      exact hknown

/-- The domain of a status has no say in whether the status equals its own condition. -/
theorem equivalent_generic_condition {i : DomainId} (hx : x.face.id = some i)
    (hknown : x.face.condition ≠ .unknown) :
    x.equivalent depth (generic x.face.condition) = true := by
  rw [equivalent_generic_iff hx]
  exact .inr (.inr ⟨rfl, hknown⟩)

end Status

/-! ## The unknown condition -/

/-- A code of a domain with the default rule and an identity of its own is not equivalent
to the unknown condition, whatever its own condition is. -/
theorem Domain.UsesDefaultRule.equivalent_unknown {D : Domain S} {v : D.Value} {amb : S.Ambient}
    {depth : Nat} (hD : D.UsesDefaultRule) (hid : D.id ≠ .generic) :
    ((Code.typed D v).status amb).equivalent depth (.generic .unknown) = false := by
  have hface : ((Code.typed D v).status amb).face.id = some D.id := rfl
  rw [Bool.eq_false_iff, ne_eq, Status.equivalent_generic_iff hface, hface, Option.some.injEq]
  rintro (hrecognised | ⟨hgeneric, -⟩ | ⟨-, hknown⟩)
  · -- The rule looks for its own condition, and only if that is known.
    change D.recognises amb v depth ((Status.generic .unknown).view depth) = true at hrecognised
    rw [hD amb v depth, Status.face_view,
      defaultRule_of_generic (Status.id_generic .unknown) hid] at hrecognised
    obtain ⟨hmine, hheld⟩ := hrecognised
    rw [Status.conditionHeld_generic, Option.some.injEq] at hheld
    exact hmine hheld.symm
  · exact hid hgeneric
  · exact hknown rfl

/-! ## Comparisons with a condition -/

namespace Operand

/-- **Which conditions a code equals.** Take a code that is not empty, of any domain with
any rules, by itself or in a failure. It equals a condition, on whichever side, in three
cases: its domain recognises the condition; or it is the condition, under the generic
identity; or the condition is the one nearest to it, and not the unknown one.

So it equals the condition nearest to it if that is known, and its domain cannot prevent
that. And it does not equal the unknown condition if its domain has the default rule and
another identity than the generic one. -/
theorem equals_condition {x : Operand S} (hx : x.anyCode.code.isEmpty = false)
    (amb : S.Ambient) (depth : Nat) :
    let code := x.anyCode.code
    (∀ c : Condition,
      (x.equals amb depth (.condition c) = true
        ↔ (code.status amb).recognisesStatus depth (.generic c) = true
          ∨ (code.id = some .generic ∧ (code.face amb).conditionHeld = some c)
          ∨ (code.condition amb = c ∧ c ≠ .unknown))
      ∧ (Operand.condition c).equals amb depth x = x.equals amb depth (.condition c))
    ∧ (code.condition amb ≠ .unknown →
        x.equals amb depth (.condition (code.condition amb)) = true)
    ∧ ∀ (D : Domain S) (v : D.Value), Code.MadeFrom D v code → D.UsesDefaultRule →
        D.id ≠ .generic → x.equals amb depth (.condition .unknown) = false := by
  intro code
  -- The comparison is that of two codes, and the one of a condition is seen as generic.
  have hequals : ∀ c : Condition, x.equals amb depth (.condition c)
      = (code.status amb).equivalent depth (.generic c) :=
    fun c => equals_eq_equivalent amb depth x (.condition c)
  obtain ⟨i, hi⟩ : ∃ i, (code.status amb).face.id = some i :=
    Option.isSome_iff_exists.mp (Option.isNone_eq_false_iff.mp hx)
  refine ⟨?_, ?_, ?_⟩
  · intro c
    rw [hequals]
    exact ⟨Status.equivalent_generic_iff hi, by rw [equals_comm, hequals]⟩
  · intro hknown
    rw [hequals]
    exact Status.equivalent_generic_condition hi hknown
  · intro D v hmade hD hid
    rw [hequals, hmade.status_eq]
    exact hD.equivalent_unknown hid

/-- A row of a table that refuses everything equals the condition that the table gives it,
and a narrowed code of `http` that has no condition does not equal the unknown one. -/
theorem equals_condition_refused :
    let table : Catalog.Table :=
      { Catalog.Table.empty with conditions := [(5, .timedOut)], noDefault := true }
    let amb : Catalog.setting.Ambient := Catalog.Tables.mk table .empty
    let row : Code Catalog.setting (.typed Catalog.t0) := .typed Catalog.t0 (5 : Int64)
    let failure : Failure Catalog.setting (.typed Catalog.t0) := ⟨row, amb, rfl⟩
    let teapot : Code Catalog.setting (.erased .w4) :=
      .narrow Catalog.http ⟨.uint16, rfl, by decide⟩ (418 : UInt16)
    (∀ other : Status Catalog.setting,
        (row.status amb).recognisesStatus Catalog.depth other = false)
      ∧ (Operand.failure failure).equals amb Catalog.depth (.condition .timedOut) = true
      ∧ (Operand.code teapot).equals amb Catalog.depth (.condition .unknown) = false := by
  intro table amb row failure teapot
  refine ⟨fun _ => rfl, ?_, ?_⟩
  · exact (equals_condition (x := .failure failure) rfl amb Catalog.depth).2.1 (by decide)
  · have hteapot := (equals_condition (x := .code teapot) rfl amb Catalog.depth).2.2
    exact hteapot Catalog.http (418 : UInt16) (.narrow _)
      (Domain.usesDefaultRule_standard _ _ _ _ _ _) (by decide)

end Operand

end TaggedStatus
