/-
Equivalence does not mix success and failure.

Whether a value is success is up to its domain, and which condition comes nearest to it is up
to its domain as well. Nothing ties the two together, and nothing ties them to the comparison
of values; so a failure could well be equivalent to a success, of another domain or of its
own. It takes little to exclude this: values that a domain calls equal get one verdict, and a
value with a known condition is success exactly when the condition is (`JudgesCoherently`).
In a family of such domains, equivalent codes have the same verdict
(`Operand.success_eq_of_equals`). They are linked by value, and then one domain has judged
equal values, or by a known condition, and then both verdicts are read off it.

For failures it follows that none of them is taken for success by anybody. The generic domain
may be added to any family (`IsFamily.adjoin_generic`), so success as a condition is among the
codes that a failure cannot equal; and since a code equals the condition nearest to it if
that is known, a failure does not have success for a condition either.

The theorem asks for less than `ComparesCoherently` does: that equal values have equal
conditions is not needed here.
-/
import TaggedStatus.Proofs.Equivalence.Classification
import TaggedStatus.Proofs.Equivalence.Family

set_option autoImplicit false

namespace TaggedStatus

variable {S : Setting}

/-! ## Empty codes -/

namespace Code

variable {shape : Shape S} {c : Code S shape}

/-- All empty codes show the same face. -/
theorem face_of_isEmpty (h : c.isEmpty = true) (amb : S.Ambient) (w : Width) :
    c.face amb = (Code.empty w : Code S (.erased w)).face amb := by
  cases c with
  | empty => rfl
  | typed D v => exact absurd h Bool.false_ne_true
  | narrowed rules payload stored => exact absurd h Bool.false_ne_true

theorem success_of_isEmpty (h : c.isEmpty = true) (amb : S.Ambient) : c.success amb = false :=
  congrArg Face.success (face_of_isEmpty h amb .w4)

theorem condition_of_isEmpty (h : c.isEmpty = true) (amb : S.Ambient) :
    c.condition amb = .unknown :=
  congrArg Face.condition (face_of_isEmpty h amb .w4)

end Code

/-! ## Coherent verdicts -/

namespace Domain

/-- Equal values get one verdict, and where the condition of a value is known the verdict is
that of the condition. -/
structure JudgesCoherently (D : Domain S) (amb : S.Ambient) : Prop where
  success_eq : ∀ v w : D.Value, D.type.format.equal v w = true →
    D.success amb v = D.success amb w
  success_iff : ∀ v : D.Value, D.condition amb v ≠ .unknown →
    (D.success amb v = true ↔ D.condition amb v = .success)

variable {F : Domain S → Prop} {amb : S.Ambient} {depth : Nat}

theorem judgesCoherently_generic (amb : S.Ambient) :
    (generic : Domain S).JudgesCoherently amb where
  success_eq (v w : Condition) h := by
    have hvw : v = w := beq_iff_eq.mp h
    rw [hvw]
  success_iff (v : Condition) _ := by
    show (v == .success) = true ↔ v = .success
    exact beq_iff_eq

/-- The generic domain gets in nobody's way. -/
theorem IsFamily.adjoin_generic (hF : IsFamily F) :
    IsFamily fun D => D = .generic ∨ F D where
  ordinary := by
    rintro D (hgeneric | hD)
    · exact .inl hgeneric
    · exact hF.ordinary D hD
  eq_of_id_eq := by
    rintro D E (rfl | hD) (rfl | hE) hid
    · rfl
    · exact (hF.eq_generic E hE hid.symm).symm
    · exact hF.eq_generic D hD hid
    · exact hF.eq_of_id_eq D E hD hE hid
  eq_generic := by
    rintro D (hgeneric | hD) hid
    · exact hgeneric
    · exact hF.eq_generic D hD hid

section Pair

variable {D E : Domain S} {v : D.Value} {w : E.Value}

/-- In a family, equal values have equal verdicts. -/
theorem IsFamily.success_eq_of_sameValue (hF : IsFamily F) (hD : F D) (hE : F E)
    (hcoherent : D.JudgesCoherently amb)
    (h : ((Code.typed D v).face amb).SameValue ((Code.typed E w).face amb)) :
    D.success amb v = E.success amb w := by
  obtain ⟨u, hequal, hsame⟩ := hF.exists_equal_of_sameValue hD hE h
  cases hsame
  exact hcoherent.success_eq v u hequal

/-- **Equivalent codes have one verdict**, in a family that judges coherently. The values
need not be compared symmetrically. -/
theorem IsFamily.success_eq_of_equivalent (hF : IsFamily F) (hD : F D) (hE : F E)
    (hcoherentD : D.JudgesCoherently amb) (hcoherentE : E.JudgesCoherently amb)
    (h : ((Code.typed D v).status amb).equivalent depth ((Code.typed E w).status amb) = true) :
    D.success amb v = E.success amb w := by
  have hordinaryD : D.IsOrdinary := hF.isOrdinary hD
  have hordinaryE : E.IsOrdinary := hF.isOrdinary hE
  rcases sameValue_or_sameCondition_of_equivalent (.inl hordinaryD) (.inl hordinaryE) h with
    hvalue | hvalue | ⟨hcondition, hknown⟩
  · exact (hF.success_eq_of_sameValue hE hD hcoherentE hvalue).symm
  · exact hF.success_eq_of_sameValue hD hE hcoherentD hvalue
  · -- Both verdicts are that of the one condition.
    change D.condition amb v = E.condition amb w at hcondition
    change D.condition amb v ≠ .unknown at hknown
    have hverdict := hcoherentD.success_iff v hknown
    rw [hcondition] at hknown hverdict
    rw [Bool.eq_iff_iff, hverdict, hcoherentE.success_iff w hknown]

end Pair

end Domain

/-! ## Codes and failures of a family -/

namespace Operand

open Domain

variable {F : Domain S → Prop} {amb : S.Ambient} {depth : Nat} {x y : Operand S}

theorem BelongsTo.adjoin_generic (hx : x.BelongsTo F) :
    x.BelongsTo fun D => D = .generic ∨ F D := by
  rcases hx with hempty | ⟨D, v, hD, hmade⟩
  · exact .inl hempty
  · exact .inr ⟨D, v, .inr hD, hmade⟩

theorem success_eq_of_equals (hF : IsFamily F) (hcoherent : ∀ D, F D → D.JudgesCoherently amb)
    (hx : x.BelongsTo F) (hy : y.BelongsTo F) (h : x.equals amb depth y = true) :
    x.anyCode.code.success amb = y.anyCode.code.success amb := by
  by_cases hempty : x.anyCode.code.isEmpty = true
  · rw [equals_of_isEmpty hempty] at h
    rw [Code.success_of_isEmpty hempty, Code.success_of_isEmpty h]
  · have hyne : ¬ y.anyCode.code.isEmpty = true := not_isEmpty_of_equals h hempty
    obtain ⟨D, v, hD, hmadeX⟩ := hx.madeFrom hempty
    obtain ⟨E, w, hE, hmadeY⟩ := hy.madeFrom hyne
    rw [equals_eq_equivalent, hmadeX.status_eq, hmadeY.status_eq] at h
    rw [hmadeX.success_eq, hmadeY.success_eq]
    exact hF.success_eq_of_equivalent hD hE (hcoherent D hD) (hcoherent E hE) h

end Operand

namespace Failure

open Domain

variable {F : Domain S → Prop} {amb : S.Ambient} {depth : Nat} {shape : Shape S}
  {f : Failure S shape}

/-- A failure equals no success, as long as its own verdict stands. -/
theorem not_equals_of_success (hF : IsFamily F) (hcoherent : ∀ D, F D → D.JudgesCoherently amb)
    (hf : (Operand.failure f).BelongsTo F) (hsame : f.code.success amb = f.code.success f.judgedIn)
    {y : Operand S} (hy : y.BelongsTo F) (hsuccess : y.anyCode.code.success amb = true) :
    (Operand.failure f).equals amb depth y = false := by
  rw [Bool.eq_false_iff]
  intro hequals
  have hverdict : f.code.success amb = y.anyCode.code.success amb :=
    Operand.success_eq_of_equals hF hcoherent hf hy hequals
  rw [f.success_eq_false hsame, hsuccess] at hverdict
  exact Bool.false_ne_true hverdict

/-- A failure does not equal success as a condition, whether or not the generic domain is
in the family. -/
theorem not_equals_success (hF : IsFamily F) (hcoherent : ∀ D, F D → D.JudgesCoherently amb)
    (hf : (Operand.failure f).BelongsTo F)
    (hsame : f.code.success amb = f.code.success f.judgedIn) :
    (Operand.failure f).equals amb depth (.condition .success) = false := by
  have hadjoined : ∀ D, D = .generic ∨ F D → D.JudgesCoherently amb := by
    rintro D (rfl | hD)
    · exact judgesCoherently_generic amb
    · exact hcoherent D hD
  have hsuccess : (Operand.condition .success : Operand S).BelongsTo
      fun D => D = .generic ∨ F D := .inr ⟨.generic, .success, .inl rfl, .typed⟩
  exact not_equals_of_success hF.adjoin_generic hadjoined hf.adjoin_generic hsame hsuccess rfl

/-- What does not equal success does not have it for a condition. -/
theorem condition_ne_success
    (h : (Operand.failure f).equals amb depth (.condition .success) = false) :
    f.code.condition amb ≠ .success := by
  intro hcondition
  cases hempty : f.code.isEmpty with
  | true =>
      rw [Code.condition_of_isEmpty hempty] at hcondition
      exact absurd hcondition (by decide)
  | false =>
      obtain ⟨i, hi⟩ : ∃ i, (f.code.status amb).face.id = some i :=
        Code.exists_id_of_not_isEmpty hempty
      have hown : (f.code.status amb).equivalent depth (.generic (f.code.condition amb)) = true := by
        apply Status.equivalent_generic_condition hi
        show f.code.condition amb ≠ .unknown
        rw [hcondition]
        decide
      rw [hcondition] at hown
      rw [Operand.equals_eq_equivalent] at h
      exact Bool.false_ne_true (h.symm.trans hown)

end Failure

/-! ## The family of the catalogue -/

namespace Catalog

open Domain

/-- The domains of the family judge all of their values coherently. -/
theorem judgesCoherently_of_mem_family (amb : setting.Ambient) {D : Domain setting}
    (hD : D ∈ family) : D.JudgesCoherently amb where
  success_eq v w h := congrArg (D.success amb) ((equal_iff_of_mem_family hD v w).mp h)
  success_iff := by
    simp only [family, List.mem_cons, List.not_mem_nil, or_false] at hD
    rcases hD with rfl | rfl | rfl | rfl | rfl
    · exact (judgesCoherently_generic amb).success_iff
    · intro (v : UInt16) _
      show decide (v < 400) = true ↔ httpCondition v.toNat = .success
      rw [httpCondition_eq_success_iff, decide_eq_true_iff, UInt16.lt_iff_toNat_lt]
      rfl
    · exact fun _ _ => raw_success_iff
    -- The others know no condition at all.
    · exact fun _ hknown => absurd rfl hknown
    · exact fun _ hknown => absurd rfl hknown

end Catalog

/-- **Verdicts are kept apart.** In any family of domains that judge coherently, equal codes
are both success or both not, whether typed, erased or empty. So a failure of the family,
while its own verdict stands, does not have success for a condition, and it equals neither
success as a condition nor any code that is success, in either order. The generic domain,
`http`, `raw`, `label` and `wide` are such a family, and their comparisons are respected by
verdicts and conditions. -/
theorem verdicts_kept_apart :
    (∀ {S : Setting} {F : Domain S → Prop} {amb : S.Ambient}, Domain.IsFamily F →
      (∀ D, F D → D.JudgesCoherently amb) → ∀ depth : Nat,
        (∀ x y : Operand S, x.BelongsTo F → y.BelongsTo F → x.equals amb depth y = true →
          x.anyCode.code.success amb = y.anyCode.code.success amb)
        ∧ ∀ {shape : Shape S} (f : Failure S shape), (Operand.failure f).BelongsTo F →
            f.code.success amb = f.code.success f.judgedIn →
            f.code.condition amb ≠ .success
            ∧ ∀ y : Operand S,
                y = .condition .success ∨ (y.BelongsTo F ∧ y.anyCode.code.success amb = true) →
                (Operand.failure f).equals amb depth y = false
                  ∧ y.equals amb depth (.failure f) = false)
    ∧ Domain.IsFamily (· ∈ Catalog.family)
    ∧ ∀ (amb : Catalog.setting.Ambient) (D : Domain Catalog.setting), D ∈ Catalog.family →
        D.ComparesCoherently amb ∧ D.JudgesCoherently amb := by
  refine ⟨?_, Catalog.isFamily_family, fun amb D hD =>
    ⟨Catalog.comparesCoherently_of_mem_family amb hD,
      Catalog.judgesCoherently_of_mem_family amb hD⟩⟩
  intro S F amb hF hcoherent depth
  refine ⟨fun x y hx hy => Operand.success_eq_of_equals hF hcoherent hx hy, ?_⟩
  intro shape f hf hsame
  have hsuccess : (Operand.failure f).equals amb depth (.condition .success) = false :=
    Failure.not_equals_success hF hcoherent hf hsame
  refine ⟨Failure.condition_ne_success hsuccess, ?_⟩
  intro y hy
  have hleft : (Operand.failure f).equals amb depth y = false := by
    rcases hy with rfl | ⟨hmember, hverdict⟩
    · exact hsuccess
    · exact Failure.not_equals_of_success hF hcoherent hf hsame hmember hverdict
  exact ⟨hleft, by rw [Operand.equals_comm, hleft]⟩

/-- A narrowed failure of `raw` equals neither success as a condition nor a success of
`http`. -/
theorem verdicts_kept_apart_raw_http :
    let amb : Catalog.setting.Ambient := .empty
    let f : Failure Catalog.setting (.erased .w8) :=
      ⟨.narrow Catalog.raw ⟨.uint32, rfl, by decide⟩ (0xffffffff : UInt32), amb, rfl⟩
    let fine : Operand Catalog.setting := .code (.typed Catalog.http (200 : UInt16))
    fine.anyCode.code.success amb = true
      ∧ (Operand.failure f).equals amb Catalog.depth fine = false
      ∧ (Operand.condition .success).equals amb Catalog.depth (.failure f) = false := by
  intro amb f fine
  have hf : (Operand.failure f).BelongsTo (· ∈ Catalog.family) :=
    .inr ⟨Catalog.raw, (0xffffffff : UInt32), Catalog.raw_mem_family, .narrow _⟩
  have hfine : fine.BelongsTo (· ∈ Catalog.family) :=
    .inr ⟨Catalog.http, (200 : UInt16), Catalog.http_mem_family, .typed⟩
  have hsuccess : fine.anyCode.code.success amb = true := by decide
  obtain ⟨hapart, hfamily, hcoherent⟩ := verdicts_kept_apart
  obtain ⟨-, hfailures⟩ := hapart hfamily (fun D hD => (hcoherent amb D hD).2) Catalog.depth
  obtain ⟨-, hequals⟩ := hfailures f hf rfl
  exact ⟨hsuccess, (hequals fine (.inr ⟨hfine, hsuccess⟩)).1,
    (hequals (.condition .success) (.inl rfl)).2⟩

end TaggedStatus
