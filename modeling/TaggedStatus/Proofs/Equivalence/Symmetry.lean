/-
Equivalence has no direction.

It is written down with one. The left side is asked first, and the condition of the
right side is tried before that of the left; and a domain may have any rule at all,
so that one side may recognise the other without being recognised by it. None of
this shows in the answer. Exchanging the sides exchanges the first two questions with
each other and the last two with each other, and the answer is yes as soon as one of
the four is (`Status.equivalent_comm`). Before any question is asked, the statuses
without a domain are set apart (`Status.equivalent_of_id_eq_none`), so that even a
domain that recognises everything does not get to recognise them.

The comparisons that a program writes are brought to this form first. Whatever stands
on one side of a comparison stands for a code: itself, the code of a failure, or the
code of a condition; and the comparison is the equivalence of the two codes
(`Operand.equals_eq_equivalent`). For most pairs this is how the comparison is
defined. It is not for a condition before a code, where the code is taken first, and
for two conditions, which are simply equal or not.
-/
import TaggedStatus.Catalog.Domains
import TaggedStatus.Comparison

set_option autoImplicit false

namespace TaggedStatus

variable {S : Setting}

/-! ## Statuses -/

namespace Status

variable {depth : Nat} {x y : Status S}

/-- A status without a domain is equivalent to its like, and the other side is not
asked. -/
theorem equivalent_of_id_eq_none (hx : x.face.id = none) :
    x.equivalent depth y = y.face.id.isNone := by
  cases hy : y.face.id with
  | none => rw [equivalent_of_none hx hy, Option.isNone_none]
  | some j => rw [equivalent_of_none_some hx hy, Option.isNone_some]

/-- **Equivalence is symmetric**, whatever the domains recognise. -/
theorem equivalent_comm (depth : Nat) (x y : Status S) :
    x.equivalent depth y = y.equivalent depth x := by
  cases hx : x.face.id with
  | none =>
      rw [equivalent_of_id_eq_none hx]
      cases hy : y.face.id with
      | none => rw [equivalent_of_none hy hx, Option.isNone_none]
      | some j => rw [equivalent_of_some_none hy hx, Option.isNone_some]
  | some i =>
      cases hy : y.face.id with
      | none => rw [equivalent_of_some_none hx hy, equivalent_of_none_some hy hx]
      | some j =>
          -- The four questions are the same four, in another order.
          rw [Bool.eq_iff_iff, equivalent_iff_of_some hx hy, equivalent_iff_of_some hy hx]
          constructor
          · rintro (hxy | hyx | hyCondition | hxCondition)
            · exact .inr (.inl hxy)
            · exact .inl hyx
            · exact .inr (.inr (.inr hyCondition))
            · exact .inr (.inr (.inl hxCondition))
          · rintro (hyx | hxy | hxCondition | hyCondition)
            · exact .inr (.inl hyx)
            · exact .inl hxy
            · exact .inr (.inr (.inr hxCondition))
            · exact .inr (.inr (.inl hyCondition))

/-- Two conditions are equivalent as codes of the generic domain if they are equal,
the unknown one included: the generic domain recognises it by value. -/
theorem equivalent_generic_generic (depth : Nat) (a b : Condition) :
    (generic a : Status S).equivalent depth (generic b) = (a == b) := by
  rw [Bool.eq_iff_iff, equivalent_iff_of_some (id_generic a) (id_generic b), beq_iff_eq]
  -- Recognising is by value, so the filter on unknown conditions has no say here.
  simp only [generic_recognisesStatus_iff, id_generic, conditionHeld_generic, Option.some.injEq,
    true_and]
  constructor
  · rintro (hba | hab | ⟨-, hba⟩ | ⟨-, hab⟩)
    · exact hba.symm
    · exact hab
    · exact hba.symm
    · exact hab
  · intro hab
    exact .inl hab.symm

end Status

/-! ## Comparisons -/

namespace Operand

/-- The code that an operand stands for. -/
def anyCode : Operand S → AnyCode S
  | .code c => ⟨_, c⟩
  | .failure f => ⟨_, f.code⟩
  | .condition c => ⟨_, Code.ofCondition c⟩

/-- Every comparison is the equivalence of the codes that the operands stand for. -/
theorem equals_eq_equivalent (amb : S.Ambient) (depth : Nat) (x y : Operand S) :
    x.equals amb depth y
      = (x.anyCode.code.status amb).equivalent depth (y.anyCode.code.status amb) := by
  cases x with
  | code a => cases y <;> rfl
  | failure f => cases y <;> rfl
  | condition c =>
      cases y with
      | code a =>
          -- The one comparison that takes its sides the other way round.
          exact Status.equivalent_comm depth (a.status amb) (.generic c)
      | failure f => rfl
      | condition c' => exact (Status.equivalent_generic_generic depth c c').symm

/-- The order of the operands does not matter. -/
theorem equals_comm (amb : S.Ambient) (depth : Nat) (x y : Operand S) :
    x.equals amb depth y = y.equals amb depth x := by
  rw [equals_eq_equivalent, equals_eq_equivalent, Status.equivalent_comm]

/-- What stands for an empty code equals what stands for an empty code. -/
theorem equals_of_isEmpty {amb : S.Ambient} {depth : Nat} {x y : Operand S}
    (hx : x.anyCode.code.isEmpty = true) :
    x.equals amb depth y = y.anyCode.code.isEmpty := by
  have hid : (x.anyCode.code.status amb).face.id = none := Option.isNone_iff_eq_none.mp hx
  rw [equals_eq_equivalent, Status.equivalent_of_id_eq_none hid]
  rfl

end Operand

/-! ## Both together -/

/-- **Equivalence has no direction and keeps empty codes apart**, whatever rules the
domains have. Statuses may change sides, and so may codes, failures and conditions in
every comparison. An empty code of any width is equivalent to what has no domain, and
to nothing else. -/
theorem equivalence_undirected (amb : S.Ambient) (depth : Nat) :
    (∀ x y : Status S, x.equivalent depth y = y.equivalent depth x)
    ∧ (∀ x y : Operand S, x.equals amb depth y = y.equals amb depth x)
    ∧ (∀ (w : Width) (y : Status S),
        ((Code.empty w).status amb).equivalent depth y = y.face.id.isNone)
    ∧ ∀ (w : Width) (y : Operand S),
        (Operand.code (.empty w)).equals amb depth y = y.anyCode.code.isEmpty := by
  refine ⟨Status.equivalent_comm depth, Operand.equals_comm amb depth, ?_, ?_⟩
  · intro w y
    exact Status.equivalent_of_id_eq_none rfl
  · intro w y
    exact Operand.equals_of_isEmpty rfl

/-- A row that recognises everything recognises the empty code, and it does not help. -/
example :
    let amb : Catalog.Tables :=
      ⟨{ Catalog.Table.empty with rules := [(5, ⟨none, none, none, none, none, none, none, none⟩)] },
        .empty⟩
    let row : Status Catalog.setting := (Code.typed Catalog.t0 (5 : Int64)).status amb
    let empty : Status Catalog.setting := (Code.empty .w8).status amb
    row.recognisesStatus 2 empty = true ∧ row.equivalent 2 empty = false := by
  decide

end TaggedStatus
