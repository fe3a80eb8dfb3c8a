/-
Where equivalence is transitive.

At large it is not. A code may be the same as a second one by value, and the second
the same as a third by condition, and nothing ties the first to the third: the first
two may be of domains that share an identity and disagree on the condition, or their
values may be equal and yet of different conditions.

In a family of ordinary domains with an identity each, and with values whose
comparison is an equivalence relation that the condition respects, both are excluded,
and there equivalence is an equivalence relation. The argument is short because the
rules of the domains have been dealt with before: between codes of ordinary domains,
equivalence is `Face.Linked`, equal values of one type under one identity or the same
known condition. Links of one kind compose among themselves. A link by value before or
after a link by condition becomes a link by condition, because in a family equal values
have equal conditions (`IsFamily.condition_eq_of_sameValue`).

Empty codes form a class of their own.
-/
import Mathlib.Data.List.Nodup
import TaggedStatus.Proofs.Equivalence.ClosedForm
import TaggedStatus.Proofs.Equivalence.Symmetry

set_option autoImplicit false

namespace TaggedStatus

variable {S : Setting}

/-! ## Links between faces -/

/-- The comparison of the values of a type is an equivalence relation. -/
def ValueType.ComparesByEquivalence (T : ValueType S) : Prop :=
  Equivalence fun v w : T.Carrier => T.format.equal v w = true

theorem ValueType.ComparesByEquivalence.isSymmetric {T : ValueType S}
    (h : T.ComparesByEquivalence) : T.IsSymmetric := by
  intro v w
  rw [Bool.eq_iff_iff]
  exact ⟨h.symm, h.symm⟩

namespace Face

/-- What equivalence comes to between codes of ordinary domains. -/
def Linked (x y : Face S) : Prop :=
  x.SameValue y ∨ x.SameCondition y

theorem SameValue.trans {x y z : Face S} (hxy : x.SameValue y) (hyz : y.SameValue z)
    (hcompares : ∀ held, y.held = some held → held.type.ComparesByEquivalence) :
    x.SameValue z := by
  obtain ⟨hid, T, u, v, hu, hv, huv⟩ := hxy
  obtain ⟨hid', T', v', w, hv', hw, hvw⟩ := hyz
  -- Both links meet at the value in the middle, and it has one type.
  have hheld : (⟨T, v⟩ : Held S) = ⟨T', v'⟩ := Option.some.inj (hv.symm.trans hv')
  cases hheld
  have hT : T.ComparesByEquivalence := hcompares ⟨T, v⟩ hv
  exact ⟨hid.trans hid', T, u, w, hu, hw, hT.trans huv hvw⟩

end Face

/-! ## Families -/

namespace Domain

/-- A family of domains that do not get in each other's way: each of them is the
generic domain or has the default rule, no two share an identity, and the identity of
the generic domain is its own. -/
structure IsFamily (F : Domain S → Prop) : Prop where
  ordinary : ∀ D, F D → D = .generic ∨ D.UsesDefaultRule
  eq_of_id_eq : ∀ D E, F D → F E → D.id = E.id → D = E
  eq_generic : ∀ D, F D → D.id = .generic → D = .generic

/-- The comparison of the values is an equivalence relation, and the condition
respects it. -/
structure ComparesCoherently (D : Domain S) (amb : S.Ambient) : Prop where
  byEquivalence : D.type.ComparesByEquivalence
  condition_eq : ∀ v w : D.Value, D.type.format.equal v w = true →
    D.condition amb v = D.condition amb w

/-- A comparison that tells all values apart is coherent with every condition. -/
theorem comparesCoherently_of_lawful {D : Domain S}
    (h : ∀ v w : D.Value, D.type.format.equal v w = true ↔ v = w) (amb : S.Ambient) :
    D.ComparesCoherently amb where
  byEquivalence :=
    { refl := fun v => (h v v).mpr rfl
      symm := fun {v w} hvw => (h w v).mpr ((h v w).mp hvw).symm
      trans := fun {u v w} huv hvw => (h u w).mpr (((h u v).mp huv).trans ((h v w).mp hvw)) }
  condition_eq v w hvw := congrArg (D.condition amb) ((h v w).mp hvw)

variable {F : Domain S → Prop} {amb : S.Ambient} {depth : Nat}

theorem IsFamily.isOrdinary (hF : IsFamily F) {D : Domain S} (hD : F D) : D.IsOrdinary := by
  rcases hF.ordinary D hD with hgeneric | hrule
  · exact .inl hgeneric
  · by_cases hid : D.id = .generic
    · exact .inl (hF.eq_generic D hD hid)
    · exact .inr ⟨hrule, hid⟩

section Pair

variable {D E : Domain S} {v : D.Value} {w : E.Value}

/-- In a family, the identity says which domain judges a value: a code of the same value
is one of the same domain, and of a value that the comparison calls equal. -/
theorem IsFamily.exists_equal_of_sameValue (hF : IsFamily F) (hD : F D) (hE : F E)
    (h : ((Code.typed D v).face amb).SameValue ((Code.typed E w).face amb)) :
    ∃ u : D.Value, D.type.format.equal v u = true ∧ Sigma.mk E w = ⟨D, u⟩ := by
  obtain ⟨hid, T, u, u', hu, hu', hequal⟩ := h
  have hsame : D = E := hF.eq_of_id_eq D E hD hE (Option.some.inj hid)
  subst hsame
  -- What the faces hold are the two values themselves.
  have hv : (⟨D.type, v⟩ : Held S) = ⟨T, u⟩ := Option.some.inj hu
  cases hv
  have hw : (⟨D.type, w⟩ : Held S) = ⟨D.type, u'⟩ := Option.some.inj hu'
  cases hw
  exact ⟨w, hequal, rfl⟩

/-- In a family, equal values have equal conditions. -/
theorem IsFamily.condition_eq_of_sameValue (hF : IsFamily F) (hD : F D) (hE : F E)
    (hcoherent : D.ComparesCoherently amb)
    (h : ((Code.typed D v).face amb).SameValue ((Code.typed E w).face amb)) :
    D.condition amb v = E.condition amb w := by
  obtain ⟨u, hequal, hsame⟩ := hF.exists_equal_of_sameValue hD hE h
  cases hsame
  exact hcoherent.condition_eq v u hequal

/-- Equivalence in a family is being linked. -/
theorem IsFamily.equivalent_iff_linked (hF : IsFamily F) (hD : F D) (hE : F E)
    (hcoherent : D.ComparesCoherently amb) :
    ((Code.typed D v).status amb).equivalent depth ((Code.typed E w).status amb) = true
      ↔ ((Code.typed D v).face amb).Linked ((Code.typed E w).face amb) :=
  equivalent_typed_iff (.inl (hF.isOrdinary hD)) (.inl (hF.isOrdinary hE))
    (.inl (hF.isOrdinary hD)) hcoherent.byEquivalence.isSymmetric

end Pair

/-- **Links compose** in a family. -/
theorem IsFamily.linked_trans (hF : IsFamily F) (hcoherent : ∀ D, F D → D.ComparesCoherently amb)
    {A B C : Domain S} (hA : F A) (hB : F B) (hC : F C) {u : A.Value} {v : B.Value} {w : C.Value}
    (huv : ((Code.typed A u).face amb).Linked ((Code.typed B v).face amb))
    (hvw : ((Code.typed B v).face amb).Linked ((Code.typed C w).face amb)) :
    ((Code.typed A u).face amb).Linked ((Code.typed C w).face amb) := by
  rcases huv with hvalue | ⟨hcondition, hknown⟩
  · rcases hvw with hvalue' | ⟨hcondition', hknown'⟩
    · refine .inl (hvalue.trans hvalue' ?_)
      rintro held ⟨⟩
      exact (hcoherent B hB).byEquivalence
    · -- The condition of the middle code is that of the first one.
      have hfirst : A.condition amb u = B.condition amb v :=
        hF.condition_eq_of_sameValue hA hB (hcoherent A hA) hvalue
      refine .inr ⟨hfirst.trans hcondition', ?_⟩
      show A.condition amb u ≠ .unknown
      rw [hfirst]
      exact hknown'
  · rcases hvw with hvalue' | ⟨hcondition', -⟩
    · have hlast : B.condition amb v = C.condition amb w :=
        hF.condition_eq_of_sameValue hB hC (hcoherent B hB) hvalue'
      exact .inr ⟨hcondition.trans hlast, hknown⟩
    · exact .inr ⟨hcondition.trans hcondition', hknown⟩

end Domain

/-! ## Codes, failures and conditions of a family -/

namespace Operand

open Domain

/-- The operand stands for an empty code, or for one of a domain in the family, typed
or erased. -/
def BelongsTo (F : Domain S → Prop) (x : Operand S) : Prop :=
  x.anyCode.code.isEmpty = true
    ∨ ∃ (D : Domain S) (v : D.Value), F D ∧ Code.MadeFrom D v x.anyCode.code

variable {F : Domain S → Prop} {amb : S.Ambient} {depth : Nat} {x y z : Operand S}

theorem BelongsTo.madeFrom (hx : x.BelongsTo F) (hne : ¬ x.anyCode.code.isEmpty = true) :
    ∃ (D : Domain S) (v : D.Value), F D ∧ Code.MadeFrom D v x.anyCode.code :=
  hx.resolve_left hne

/-- What equals something that is not empty is not empty. -/
theorem not_isEmpty_of_equals (h : x.equals amb depth y = true)
    (hx : ¬ x.anyCode.code.isEmpty = true) : ¬ y.anyCode.code.isEmpty = true := by
  intro hy
  rw [equals_comm, equals_of_isEmpty hy] at h
  exact hx h

theorem equals_iff_linked (hF : IsFamily F) {D E : Domain S} {v : D.Value} {w : E.Value}
    (hD : F D) (hE : F E) (hcoherent : D.ComparesCoherently amb)
    (hx : Code.MadeFrom D v x.anyCode.code) (hy : Code.MadeFrom E w y.anyCode.code) :
    x.equals amb depth y = true
      ↔ ((Code.typed D v).face amb).Linked ((Code.typed E w).face amb) := by
  rw [equals_eq_equivalent, hx.status_eq, hy.status_eq]
  exact hF.equivalent_iff_linked hD hE hcoherent

theorem equals_refl (hF : IsFamily F) (hcoherent : ∀ D, F D → D.ComparesCoherently amb)
    (hx : x.BelongsTo F) : x.equals amb depth x = true := by
  by_cases hempty : x.anyCode.code.isEmpty = true
  · rw [equals_of_isEmpty hempty, hempty]
  · obtain ⟨D, v, hD, hmade⟩ := hx.madeFrom hempty
    refine (equals_iff_linked hF hD hD (hcoherent D hD) hmade hmade).mpr (.inl ⟨rfl, ?_⟩)
    exact ⟨D.type, v, v, rfl, rfl, (hcoherent D hD).byEquivalence.refl v⟩

theorem equals_trans (hF : IsFamily F) (hcoherent : ∀ D, F D → D.ComparesCoherently amb)
    (hx : x.BelongsTo F) (hy : y.BelongsTo F) (hz : z.BelongsTo F)
    (hxy : x.equals amb depth y = true) (hyz : y.equals amb depth z = true) :
    x.equals amb depth z = true := by
  by_cases hempty : x.anyCode.code.isEmpty = true
  · -- That the first is empty is handed down the chain.
    rw [equals_of_isEmpty hempty] at hxy ⊢
    rw [equals_of_isEmpty hxy] at hyz
    exact hyz
  · -- So nothing in the chain is empty, and everything in it was made from a value.
    have hyne : ¬ y.anyCode.code.isEmpty = true := not_isEmpty_of_equals hxy hempty
    have hzne : ¬ z.anyCode.code.isEmpty = true := not_isEmpty_of_equals hyz hyne
    obtain ⟨A, u, hA, hmadeX⟩ := hx.madeFrom hempty
    obtain ⟨B, v, hB, hmadeY⟩ := hy.madeFrom hyne
    obtain ⟨C, w, hC, hmadeZ⟩ := hz.madeFrom hzne
    rw [equals_iff_linked hF hA hB (hcoherent A hA) hmadeX hmadeY] at hxy
    rw [equals_iff_linked hF hB hC (hcoherent B hB) hmadeY hmadeZ] at hyz
    rw [equals_iff_linked hF hA hC (hcoherent A hA) hmadeX hmadeZ]
    exact hF.linked_trans hcoherent hA hB hC hxy hyz

end Operand

/-! ## The family of the catalogue -/

namespace Catalog

open Domain

/-- The domains of the catalogue that make up a family. -/
def family : List (Domain setting) := [.generic, http, raw, label, wide]

theorem generic_mem_family : (.generic : Domain setting) ∈ family := .head _

theorem http_mem_family : http ∈ family := .tail _ (.head _)

theorem raw_mem_family : raw ∈ family := .tail _ (.tail _ (.head _))

theorem nodup_id_family : (family.map Domain.id).Nodup := by
  decide

theorem isFamily_family : IsFamily (· ∈ family) where
  ordinary D hD := by
    simp only [family, List.mem_cons, List.not_mem_nil, or_false] at hD
    rcases hD with rfl | rfl | rfl | rfl | rfl
    · exact .inl rfl
    all_goals exact .inr (usesDefaultRule_standard _ _ _ _ _ _)
  eq_of_id_eq D E hD hE hid := List.inj_on_of_nodup_map nodup_id_family hD hE hid
  -- The generic domain is a member, so this is a case of the field before.
  eq_generic D hD hid := List.inj_on_of_nodup_map nodup_id_family hD (.head _) hid

/-- In the types of the family, the comparison of values is equality. -/
theorem equal_iff_of_mem_family {D : Domain setting} (hD : D ∈ family) :
    ∀ v w : D.Value, D.type.format.equal v w = true ↔ v = w := by
  simp only [family, List.mem_cons, List.not_mem_nil, or_false] at hD
  -- Each type has its own comparison.
  rcases hD with rfl | rfl | rfl | rfl | rfl
  · exact fun (v w : Condition) => beq_iff_eq
  · exact fun (v w : UInt16) => beq_iff_eq
  · exact fun (v w : UInt32) => beq_iff_eq
  · exact fun (v w : String) => beq_iff_eq
  · exact fun (v w : UInt32 × UInt32 × UInt32) => beq_iff_eq

/-- Codes of one domain of the family hold the same value if they are of equal values. -/
theorem sameValue_iff_of_mem_family {D : Domain setting} (hD : D ∈ family) {v w : D.Value}
    {amb : setting.Ambient} :
    ((Code.typed D v).face amb).SameValue ((Code.typed D w).face amb) ↔ v = w := by
  constructor
  · intro h
    obtain ⟨u, hequal, hsame⟩ := isFamily_family.exists_equal_of_sameValue hD hD h
    cases hsame
    exact (equal_iff_of_mem_family hD v w).mp hequal
  · rintro rfl
    exact ⟨rfl, D.type, v, v, rfl, rfl, (equal_iff_of_mem_family hD v v).mpr rfl⟩

theorem comparesCoherently_of_mem_family (amb : setting.Ambient) {D : Domain setting}
    (hD : D ∈ family) : D.ComparesCoherently amb :=
  comparesCoherently_of_lawful (equal_iff_of_mem_family hD) amb

end Catalog

/-- **Where equivalence is an equivalence relation**: over the codes and failures of any
family of domains whose values compare coherently, whether typed, erased or empty. The
generic domain, `http`, `raw`, `label` and `wide` are such a family. -/
theorem equivalence_of_isFamily :
    (∀ {S : Setting} {F : Domain S → Prop} {amb : S.Ambient}, Domain.IsFamily F →
      (∀ D, F D → D.ComparesCoherently amb) → ∀ depth : Nat,
        Equivalence fun x y : { x : Operand S // x.BelongsTo F } =>
          x.1.equals amb depth y.1 = true)
    ∧ Domain.IsFamily (· ∈ Catalog.family)
    ∧ ∀ (amb : Catalog.setting.Ambient) (D : Domain Catalog.setting), D ∈ Catalog.family →
        D.ComparesCoherently amb := by
  refine ⟨?_, Catalog.isFamily_family,
    fun amb _ hD => Catalog.comparesCoherently_of_mem_family amb hD⟩
  intro S F amb hF hcoherent depth
  constructor
  case refl =>
    intro x
    exact Operand.equals_refl hF hcoherent x.2
  case symm =>
    intro x y hxy
    rw [Operand.equals_comm, hxy]
  case trans =>
    intro x y z hxy hyz
    exact Operand.equals_trans hF hcoherent x.2 y.2 z.2 hxy hyz

/-- A narrowed code of `raw` is equal to a condition, because a failure of `http` is
equal to both: a chain over three domains and three ways of taking part. -/
theorem equivalence_busy :
    let amb : Catalog.setting.Ambient := .empty
    let rawCode : Code Catalog.setting (.erased .w8) :=
      .narrow Catalog.raw ⟨.uint32, rfl, by decide⟩ (16 : UInt32)
    let httpFailure : Failure Catalog.setting (.typed Catalog.http) :=
      ⟨.typed Catalog.http (503 : UInt16), amb, rfl⟩
    (Operand.code rawCode).equals amb Catalog.depth (.failure httpFailure) = true
      ∧ (Operand.failure httpFailure).equals amb Catalog.depth (.condition .resourceBusy) = true
      ∧ (Operand.code rawCode).equals amb Catalog.depth (.condition .resourceBusy) = true := by
  intro amb rawCode httpFailure
  let raw : Operand Catalog.setting := .code rawCode
  let http : Operand Catalog.setting := .failure httpFailure
  let busy : Operand Catalog.setting := .condition .resourceBusy
  have hraw : raw.BelongsTo (· ∈ Catalog.family) :=
    .inr ⟨Catalog.raw, (16 : UInt32), .tail _ (.tail _ (.head _)), .narrow _⟩
  have hhttp : http.BelongsTo (· ∈ Catalog.family) :=
    .inr ⟨Catalog.http, (503 : UInt16), .tail _ (.head _), .typed⟩
  have hbusy : busy.BelongsTo (· ∈ Catalog.family) :=
    .inr ⟨.generic, .resourceBusy, .head _, .typed⟩
  have hfirst : raw.equals amb Catalog.depth http = true := by decide
  have hsecond : http.equals amb Catalog.depth busy = true := by decide
  obtain ⟨hequivalence, hfamily, hcoherent⟩ := equivalence_of_isFamily
  have hchain := (hequivalence hfamily (hcoherent amb) Catalog.depth).trans
    (x := ⟨raw, hraw⟩) (y := ⟨http, hhttp⟩) (z := ⟨busy, hbusy⟩) hfirst hsecond
  exact ⟨hfirst, hsecond, hchain⟩

end TaggedStatus
