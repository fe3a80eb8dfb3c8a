/-
What a rule of its own can do to an equality.

A domain may have any rule, also one that refuses everything. Such a rule can take nothing
away from what an ordinary code on the other side equals. The reason is in which side is
asked which question. An ordinary code looks for its own value in the other code, for the
condition that the other one comes nearest to, and for its own condition among the generic
codes; for each of these the ordinary side is asked, and it needs no more of the other side
than its face (`Face.Finds`). The rule of the other side is asked two questions as well, and
answering them with yes adds to the equalities (`Status.Admits`).

So an ordinary code and a code of any domain are equivalent if the ordinary one finds itself
in the other or the other one admits it, and not otherwise (`IsOrdinary.equivalent_iff`).
Finding does not depend on the foreign rule at all, which is why that rule can add to the
equalities and veto none.
-/
import TaggedStatus.Proofs.Equivalence.ClosedForm
import TaggedStatus.Proofs.Equivalence.Symmetry

set_option autoImplicit false

namespace TaggedStatus

variable {S : Setting}

/-! ## What each side contributes -/

/-- What an ordinary code finds of itself in the face of another: its value, its condition
as the nearest one, or its condition as the value of a generic code. -/
def Face.Finds (mine theirs : Face S) : Prop :=
  theirs.SameValue mine
    ∨ mine.SameCondition theirs
    ∨ (theirs.id = some .generic ∧ theirs.conditionHeld = some mine.condition
        ∧ mine.condition ≠ .unknown)

/-- What a status does by its own rule: it recognises the other one, or the condition of
the other one if that is known. -/
def Status.Admits (depth : Nat) (x y : Status S) : Prop :=
  x.recognisesStatus depth y = true
    ∨ (y.face.condition ≠ .unknown
        ∧ x.recognisesStatus depth (.generic y.face.condition) = true)

namespace Domain

variable {D : Domain S} {v : D.Value} {amb : S.Ambient} {depth : Nat} {y : Status S}

/-- An ordinary domain recognises its own known condition in every generic code that holds
it. -/
theorem IsOrdinary.recognises_of_conditionHeld (hD : D.IsOrdinary)
    (hid : y.face.id = some .generic) (hheld : y.face.conditionHeld = some (D.condition amb v))
    (hknown : D.condition amb v ≠ .unknown) :
    ((Code.typed D v).status amb).recognisesStatus depth y = true := by
  rcases hD with rfl | ⟨hrule, hne⟩
  · exact Status.generic_recognisesStatus_iff.mpr ⟨hid, hheld⟩
  · rw [hrule.recognisesStatus_eq, defaultRule_of_generic hid hne]
    exact ⟨hknown, hheld⟩

/-- **An ordinary code against a code of any domain**: they are equivalent if the ordinary
one finds itself in the other, whatever the rule of the other, or if that rule admits it. -/
theorem IsOrdinary.equivalent_iff (hD : D.IsOrdinary) {theirs : DomainId}
    (hy : y.face.id = some theirs) :
    ((Code.typed D v).status amb).equivalent depth y = true
      ↔ ((Code.typed D v).face amb).Finds y.face
        ∨ y.Admits depth ((Code.typed D v).status amb) := by
  have hrule : D.UsesDefaultRule := hD.usesDefaultRule
  have hmine : ((Code.typed D v).status amb).face.id = some D.id := rfl
  rw [Status.equivalent_iff_of_some hmine hy]
  constructor
  · rintro (hfound | hadmitted | ⟨hknown, hfound⟩ | hadmitted)
    · rcases hrule.cases_of_recognisesStatus hfound with hvalue | hgeneric
      · exact .inl (.inl hvalue)
      · exact .inl (.inr (.inr hgeneric))
    · exact .inr (.inl hadmitted)
    · have hcondition : D.condition amb v = y.face.condition :=
        (hD.recognises_generic hknown).mp hfound
      exact .inl (.inr (.inl (Face.SameCondition.symm ⟨hcondition.symm, hknown⟩)))
    · exact .inr (.inr hadmitted)
  · -- What is found is an answer of the ordinary side to one of its two questions.
    rintro ((hvalue | hcondition | ⟨hid, hheld, hknown⟩) | (hadmitted | hadmitted))
    · exact .inl (hrule.recognises_of_sameValue hvalue)
    · obtain ⟨heq, hknown⟩ := hcondition.symm
      exact .inr (.inr (.inl ⟨hknown, (hD.recognises_generic hknown).mpr heq.symm⟩))
    · exact .inl (hD.recognises_of_conditionHeld hid hheld hknown)
    · exact .inr (.inl hadmitted)
    · exact .inr (.inr (.inr hadmitted))

end Domain

/-! ## Comparisons with an ordinary code -/

namespace Operand

/-- **An override can add equalities but never veto.** Take an ordinary code that is not
empty, and a code of any domain with any rule that is not empty either, by themselves or in
failures, typed or erased. They are equal, in both orders, if they hold the same value or
have the same known condition, even if the rule of the other domain refuses everything. The
values are compared as the ordinary side compares them, that of the other code first; where
the comparison of the type is symmetric the order is of no importance.

Besides, they are equal if the ordinary code is the condition that the other one holds under
the generic identity, and if the rule of the other domain says so, and in no other case. -/
theorem equals_despite_override {x y : Operand S} (hx : x.anyCode.code.IsOrdinary)
    (hxne : x.anyCode.code.isEmpty = false) (hyne : y.anyCode.code.isEmpty = false)
    (amb : S.Ambient) (depth : Nat) :
    let mine := x.anyCode.code.status amb
    let theirs := y.anyCode.code.status amb
    (theirs.face.SameValue mine.face
        ∨ (mine.face.SameValue theirs.face
            ∧ ∀ held, theirs.face.held = some held → held.type.IsSymmetric)
        ∨ mine.face.SameCondition theirs.face →
      x.equals amb depth y = true ∧ y.equals amb depth x = true)
    ∧ (x.equals amb depth y = true ↔ mine.face.Finds theirs.face ∨ theirs.Admits depth mine) := by
  intro mine theirs
  obtain ⟨D, v, hD, hmade⟩ := hx.madeFrom hxne
  have hmine : mine = (Code.typed D v).status amb := hmade.status_eq amb
  obtain ⟨j, hj⟩ : ∃ j, theirs.face.id = some j := Code.exists_id_of_not_isEmpty hyne
  have hexact : x.equals amb depth y = true
      ↔ mine.face.Finds theirs.face ∨ theirs.Admits depth mine := by
    rw [equals_eq_equivalent]
    change mine.equivalent depth theirs = true ↔ _
    rw [hmine]
    exact hD.equivalent_iff hj
  refine ⟨?_, hexact⟩
  intro hdefault
  have hfinds : mine.face.Finds theirs.face := by
    rcases hdefault with hvalue | ⟨hvalue, hsymm⟩ | hcondition
    · exact .inl hvalue
    · exact .inl (hvalue.symm hsymm)
    · exact .inr (.inl hcondition)
  have hequal : x.equals amb depth y = true := hexact.mpr (.inl hfinds)
  exact ⟨hequal, by rw [equals_comm, hequal]⟩

/-- A row of a table that refuses everything is called off, as a table says. It equals a
narrowed code of `flag` that is called off, and the same number in a domain that shares its
identity and has no rule of its own. -/
theorem equals_despite_override_refused :
    let table : Catalog.Table :=
      { Catalog.Table.empty with conditions := [(5, .operationCanceled)], noDefault := true }
    let amb : Catalog.setting.Ambient := Catalog.Tables.mk table .empty
    let row : Operand Catalog.setting :=
      .code (.narrow Catalog.t0 ⟨.int64, rfl, by decide⟩ (5 : Int64) : Code _ (.erased .w16))
    let flag : Operand Catalog.setting :=
      .code (.narrow Catalog.flag ⟨.bool, rfl, by decide⟩ false : Code _ (.erased .w4))
    let five : Operand Catalog.setting := .code (.typed Catalog.shadow (5 : Int64))
    (∀ other, (row.anyCode.code.status amb).recognisesStatus Catalog.depth other = false)
      ∧ flag.equals amb Catalog.depth row = true ∧ row.equals amb Catalog.depth flag = true
      ∧ five.equals amb Catalog.depth row = true ∧ row.equals amb Catalog.depth five = true := by
  intro table amb row flag five
  have hflag : flag.anyCode.code.IsOrdinary :=
    .inr ⟨Catalog.flag, false, .inr ⟨Domain.usesDefaultRule_standard _ _ _ _ _ _, by decide⟩,
      .narrow _⟩
  have hfive : five.anyCode.code.IsOrdinary :=
    .inr ⟨Catalog.shadow, (5 : Int64), .inr ⟨Domain.usesDefaultRule_standard _ _ _ _ _ _, by decide⟩,
      .typed⟩
  have hcalledOff := (equals_despite_override (y := row) hflag rfl rfl amb Catalog.depth).1
    (.inr (.inr ⟨by decide, by decide⟩))
  have hvalue := (equals_despite_override (y := row) hfive rfl rfl amb Catalog.depth).1
    (.inl ⟨rfl, Catalog.t0.type, (5 : Int64), (5 : Int64), rfl, rfl, by decide⟩)
  exact ⟨fun _ => rfl, hcalledOff.1, hcalledOff.2, hvalue.1, hvalue.2⟩

end Operand

end TaggedStatus
