/-
What equivalence comes to where no domain has a rule of its own.

Equivalence is an algorithm: four questions to two domains, with an early end of
the default rule where the identities agree, a special place for the generic
identity, and a filter on unknown conditions in two different places. Between
codes of ordinary domains all of this comes to one formula. Two codes are
equivalent if they are both empty, or if neither is and they hold equal values of
one type under one identity, or have the same condition and it is known.

The formula is reached in two steps. Asked about a generic condition that is
known, an ordinary domain says whether it is its own (`recognises_generic`), so
the last two questions together compare the conditions. Asked about another code,
a domain with the default rule says that the values are equal, or else that the
other code is generic and holds its condition; and then the conditions agree
anyway (`sameValue_or_sameCondition`).

A domain that claims the generic identity for values that are not conditions does
not disturb the formula as long as it meets only ordinary ones: nobody finds a
condition in it, and it finds its own values in nobody.
-/
import TaggedStatus.Catalog.Domains
import TaggedStatus.Code.Erasure

set_option autoImplicit false

namespace TaggedStatus

variable {S : Setting}

/-! ## The formula -/

/-- The comparison of the values of a type does not depend on their order. -/
def ValueType.IsSymmetric (T : ValueType S) : Prop :=
  ∀ v w : T.Carrier, T.format.equal v w = T.format.equal w v

namespace Face

/-- Equal values of one type under one identity. -/
def SameValue (x y : Face S) : Prop :=
  x.id = y.id ∧ ∃ (T : ValueType S) (v w : T.Carrier),
    x.held = some ⟨T, v⟩ ∧ y.held = some ⟨T, w⟩ ∧ T.format.equal v w = true

/-- The same condition, and one that is known. -/
def SameCondition (x y : Face S) : Prop :=
  x.condition = y.condition ∧ x.condition ≠ .unknown

theorem SameValue.symm {x y : Face S} (h : x.SameValue y)
    (hsymm : ∀ held, y.held = some held → held.type.IsSymmetric) : y.SameValue x := by
  obtain ⟨hid, T, v, w, hv, hw, hequal⟩ := h
  refine ⟨hid.symm, T, w, v, hw, hv, ?_⟩
  rw [hsymm ⟨T, w⟩ hw w v, hequal]

theorem SameCondition.symm {x y : Face S} (h : x.SameCondition y) : y.SameCondition x := by
  obtain ⟨hcondition, hknown⟩ := h
  exact ⟨hcondition.symm, hcondition ▸ hknown⟩

theorem valueAs_eq_some_iff {x : Face S} {T : ValueType S} {v : T.Carrier} :
    x.valueAs T = some v ↔ x.held = some ⟨T, v⟩ := by
  rw [valueAs, Option.bind_eq_some_iff]
  constructor
  · rintro ⟨held, hheld, hv⟩
    rw [hheld, Held.as?_eq_some_iff.mp hv]
  · intro h
    exact ⟨⟨T, v⟩, h, Held.as?_self T v⟩

end Face

/-! ## Domains without rules of their own -/

namespace Domain

/-- The generic domain, or a domain with the default rule and another identity. -/
def IsOrdinary (D : Domain S) : Prop :=
  D = .generic ∨ D.UsesDefaultRule ∧ D.id ≠ .generic

/-- A domain with the default rule that claims the generic identity for values
that are not conditions. -/
def IsImpostor (D : Domain S) : Prop :=
  D.UsesDefaultRule ∧ D.id = .generic ∧ D.type ≠ .condition

theorem IsOrdinary.usesDefaultRule {D : Domain S} (h : D.IsOrdinary) : D.UsesDefaultRule := by
  rcases h with rfl | ⟨hrule, -⟩
  · exact usesDefaultRule_generic
  · exact hrule

/-! ## What such domains recognise -/

variable {D E : Domain S} {v : D.Value} {w : E.Value} {amb : S.Ambient} {depth : Nat}

theorem UsesDefaultRule.recognisesStatus_eq (hD : D.UsesDefaultRule) (y : Status S) :
    ((Code.typed D v).status amb).recognisesStatus depth y
      = defaultRule D.id D.type v (D.condition amb v) y.face := by
  show D.recognises amb v depth (y.view depth) = _
  rw [hD amb v depth, Status.face_view]

/-- An ordinary domain recognises its own condition, and no other that is known. -/
theorem IsOrdinary.recognises_generic (hD : D.IsOrdinary) {c : Condition} (hc : c ≠ .unknown) :
    ((Code.typed D v).status amb).recognisesStatus depth (.generic c) = true
      ↔ D.condition amb v = c := by
  rcases hD with rfl | ⟨hrule, hid⟩
  · refine Status.generic_recognisesStatus_iff.trans ?_
    rw [Status.id_generic, Status.conditionHeld_generic]
    constructor
    · rintro ⟨-, h⟩
      exact (Option.some.inj h).symm
    · intro h
      exact ⟨rfl, congrArg some h.symm⟩
  · rw [hrule.recognisesStatus_eq, defaultRule_of_generic (Status.id_generic c) hid,
      Status.conditionHeld_generic, Option.some.injEq]
    constructor
    · rintro ⟨-, h⟩
      exact h.symm
    · intro h
      rw [h]
      exact ⟨hc, rfl⟩

/-- A domain that claims the generic identity without keeping conditions takes a
condition for one of its own and finds no value in it. -/
theorem IsImpostor.recognises_generic (hD : D.IsImpostor) (c : Condition) :
    ((Code.typed D v).status amb).recognisesStatus depth (.generic c) = false := by
  obtain ⟨hrule, hid, htype⟩ := hD
  have hface : (Status.generic c : Status S).face.id = some D.id := by rw [hid]; rfl
  rw [hrule.recognisesStatus_eq, Bool.eq_false_iff, ne_eq, defaultRule_of_own hface]
  rintro ⟨u, hu, -⟩
  rw [Face.valueAs_eq_some_iff] at hu
  have htype' : ValueType.condition = D.type := congrArg Held.type (Option.some.inj hu)
  exact htype htype'.symm

/-- A code that bears the generic identity and holds a condition is that
condition, if its domain is one of those considered here. -/
theorem condition_eq_of_conditionHeld (hE : E.IsOrdinary ∨ E.IsImpostor) {c : Condition}
    (hid : E.id = .generic) (hheld : (⟨E.type, w⟩ : Held S) = ⟨.condition, c⟩) :
    E.condition amb w = c := by
  rcases hE with (rfl | ⟨-, hne⟩) | ⟨-, -, htype⟩
  · cases hheld
    rfl
  · exact absurd hid hne
  · exact absurd (congrArg Held.type hheld) htype

/-- A domain with the default rule recognises its own values and, in a generic code, its
own condition if that is known; the status that is seen may be of any domain. -/
theorem UsesDefaultRule.cases_of_recognisesStatus (hD : D.UsesDefaultRule) {y : Status S}
    (h : ((Code.typed D v).status amb).recognisesStatus depth y = true) :
    y.face.SameValue ((Code.typed D v).face amb)
      ∨ (y.face.id = some .generic ∧ y.face.conditionHeld = some (D.condition amb v)
          ∧ D.condition amb v ≠ .unknown) := by
  rw [hD.recognisesStatus_eq] at h
  cases hface : y.face.id with
  | none => simp [defaultRule, hface] at h
  | some theirs =>
      by_cases hid : theirs = D.id
      · -- The rule ends with the values here, whatever the conditions are.
        rw [hid] at hface
        obtain ⟨u, hu, hequal⟩ := (defaultRule_of_own hface).mp h
        rw [Face.valueAs_eq_some_iff] at hu
        exact .inl ⟨hface, D.type, u, v, hu, rfl, hequal⟩
      · by_cases hgeneric : theirs = .generic
        · rw [hgeneric] at hface hid
          obtain ⟨hknown, hheld⟩ := (defaultRule_of_generic hface (Ne.symm hid)).mp h
          exact .inr ⟨congrArg some hgeneric, hheld, hknown⟩
        · rw [defaultRule_of_foreign hface hid hgeneric] at h
          exact absurd h Bool.false_ne_true

/-- A domain with the default rule that recognises a code finds its own value in
it or shares its condition. -/
theorem UsesDefaultRule.sameValue_or_sameCondition (hD : D.UsesDefaultRule)
    (hE : E.IsOrdinary ∨ E.IsImpostor)
    (h : ((Code.typed D v).status amb).recognisesStatus depth ((Code.typed E w).status amb)
      = true) :
    ((Code.typed E w).face amb).SameValue ((Code.typed D v).face amb)
      ∨ ((Code.typed E w).face amb).SameCondition ((Code.typed D v).face amb) := by
  rcases hD.cases_of_recognisesStatus h with hvalue | ⟨hgeneric, hheld, hknown⟩
  · exact .inl hvalue
  · rw [Face.conditionHeld, Face.valueAs_eq_some_iff] at hheld
    have hcondition : E.condition amb w = D.condition amb v :=
      condition_eq_of_conditionHeld hE (Option.some.inj hgeneric) (Option.some.inj hheld)
    refine .inr ⟨hcondition, ?_⟩
    show E.condition amb w ≠ .unknown
    rw [hcondition]
    exact hknown

/-- A domain with the default rule recognises its own values in any status. -/
theorem UsesDefaultRule.recognises_of_sameValue (hD : D.UsesDefaultRule) {y : Status S}
    (h : y.face.SameValue ((Code.typed D v).face amb)) :
    ((Code.typed D v).status amb).recognisesStatus depth y = true := by
  obtain ⟨hid, T, u, u', hu, hu', hequal⟩ := h
  have hheld : (⟨D.type, v⟩ : Held S) = ⟨T, u'⟩ := Option.some.inj hu'
  cases hheld
  rw [hD.recognisesStatus_eq]
  refine (defaultRule_of_own hid).mpr ⟨u, ?_, hequal⟩
  exact Face.valueAs_eq_some_iff.mpr hu

/-- Neither kind of domain takes a known condition for another one. -/
theorem condition_eq_of_recognises_generic (hD : D.IsOrdinary ∨ D.IsImpostor) {c : Condition}
    (hc : c ≠ .unknown)
    (h : ((Code.typed D v).status amb).recognisesStatus depth (.generic c) = true) :
    D.condition amb v = c := by
  rcases hD with hD | hD
  · exact (hD.recognises_generic hc).mp h
  · rw [hD.recognises_generic c] at h
    exact absurd h Bool.false_ne_true

/-- Whichever of the four questions is answered with yes, the values are the same in one
order or the other, or the conditions are. -/
theorem sameValue_or_sameCondition_of_equivalent (hD : D.IsOrdinary ∨ D.IsImpostor)
    (hE : E.IsOrdinary ∨ E.IsImpostor)
    (h : ((Code.typed D v).status amb).equivalent depth ((Code.typed E w).status amb) = true) :
    ((Code.typed E w).face amb).SameValue ((Code.typed D v).face amb)
      ∨ ((Code.typed D v).face amb).SameValue ((Code.typed E w).face amb)
      ∨ ((Code.typed D v).face amb).SameCondition ((Code.typed E w).face amb) := by
  have hDrule : D.UsesDefaultRule := hD.elim IsOrdinary.usesDefaultRule And.left
  have hErule : E.UsesDefaultRule := hE.elim IsOrdinary.usesDefaultRule And.left
  rw [Status.equivalent_iff_of_some (i := D.id) (j := E.id) rfl rfl] at h
  rcases h with h | h | ⟨hknown, h⟩ | ⟨hknown, h⟩
  · rcases hDrule.sameValue_or_sameCondition hE h with hvalue | hcondition
    · exact .inl hvalue
    · exact .inr (.inr hcondition.symm)
  · exact .inr (hErule.sameValue_or_sameCondition hD h)
  · have hcondition := condition_eq_of_recognises_generic hD hknown h
    exact .inr (.inr (Face.SameCondition.symm ⟨hcondition.symm, hknown⟩))
  · have hcondition := condition_eq_of_recognises_generic hE hknown h
    exact .inr (.inr ⟨hcondition.symm, hknown⟩)

/-- The formula for codes that are not empty. -/
theorem equivalent_typed_iff (hD : D.IsOrdinary ∨ D.IsImpostor) (hE : E.IsOrdinary ∨ E.IsImpostor)
    (hordinary : D.IsOrdinary ∨ E.IsOrdinary) (hsymm : D.type.IsSymmetric) :
    ((Code.typed D v).status amb).equivalent depth ((Code.typed E w).status amb) = true
      ↔ ((Code.typed D v).face amb).SameValue ((Code.typed E w).face amb)
        ∨ ((Code.typed D v).face amb).SameCondition ((Code.typed E w).face amb) := by
  have hErule : E.UsesDefaultRule := hE.elim IsOrdinary.usesDefaultRule And.left
  have hheld : ∀ held, ((Code.typed D v).face amb).held = some held → held.type.IsSymmetric := by
    rintro held ⟨⟩
    exact hsymm
  constructor
  · intro h
    rcases sameValue_or_sameCondition_of_equivalent hD hE h with hvalue | hvalue | hcondition
    · exact .inl (hvalue.symm hheld)
    · exact .inl hvalue
    · exact .inr hcondition
  · rw [Status.equivalent_iff_of_some (i := D.id) (j := E.id) rfl rfl]
    rintro (hvalue | hcondition)
    · -- A code finds its own values in the other, so the other is asked.
      exact .inr (.inl (hErule.recognises_of_sameValue hvalue))
    · -- One ordinary side is enough: it is asked about the condition of the other.
      rcases hordinary with hD | hE
      · obtain ⟨heq, hknown⟩ := hcondition.symm
        exact .inr (.inr (.inl ⟨hknown, (hD.recognises_generic hknown).mpr heq.symm⟩))
      · obtain ⟨heq, hknown⟩ := hcondition
        exact .inr (.inr (.inr ⟨hknown, (hE.recognises_generic hknown).mpr heq.symm⟩))

end Domain

/-! ## Codes of such domains -/

namespace Code

variable {shape shape' : Shape S}

/-- A code that is empty or of an ordinary domain, typed or erased. -/
def IsOrdinary (c : Code S shape) : Prop :=
  c.isEmpty = true ∨ ∃ (D : Domain S) (v : D.Value), D.IsOrdinary ∧ MadeFrom D v c

/-- A code of a domain that claims the generic identity without keeping conditions. -/
def IsImpostor (c : Code S shape) : Prop :=
  ∃ (D : Domain S) (v : D.Value), D.IsImpostor ∧ MadeFrom D v c

theorem IsOrdinary.madeFrom {c : Code S shape} (h : c.IsOrdinary) (hne : c.isEmpty = false) :
    ∃ (D : Domain S) (v : D.Value), D.IsOrdinary ∧ MadeFrom D v c := by
  rcases h with hempty | hmade
  · rw [hempty] at hne
    exact absurd hne.symm Bool.false_ne_true
  · exact hmade

/-- An empty code is equivalent to the empty codes. -/
theorem equivalent_iff_of_isEmpty {a : Code S shape} {b : Code S shape'} {amb : S.Ambient}
    {depth : Nat} (h : a.isEmpty = true ∨ b.isEmpty = true) :
    (a.status amb).equivalent depth (b.status amb) = true
      ↔ a.isEmpty = true ∧ b.isEmpty = true := by
  have hid : ∀ {s : Shape S} (c : Code S s), c.isEmpty = true ↔ (c.status amb).face.id = none :=
    fun c => Option.isNone_iff_eq_none
  rw [hid a, hid b] at h ⊢
  -- Empty codes are those without an identity; each pairing has its own equation.
  rcases ha : (a.status amb).face.id with _ | i <;> rcases hb : (b.status amb).face.id with _ | j
  · simp [Status.equivalent_of_none ha hb]
  · simp [Status.equivalent_of_none_some ha hb]
  · simp [Status.equivalent_of_some_none ha hb]
  · rw [ha, hb] at h
    simp at h

/-- **The closed form of equivalence.** Between codes that are empty or of ordinary
domains, and also where exactly one of the two is of a domain that claims the
generic identity without keeping conditions, equivalence means that both are
empty, or that neither is and they have the same value or the same condition. -/
theorem equivalent_iff_closedForm (a : Code S shape) (b : Code S shape') (amb : S.Ambient)
    (depth : Nat)
    (h : a.IsOrdinary ∧ b.IsOrdinary ∨ a.IsOrdinary ∧ b.IsImpostor ∨ a.IsImpostor ∧ b.IsOrdinary)
    (hsymm : ∀ held, a.held = some held → held.type.IsSymmetric) :
    (a.status amb).equivalent depth (b.status amb) = true
      ↔ a.isEmpty = true ∧ b.isEmpty = true
        ∨ a.isEmpty = false ∧ b.isEmpty = false
          ∧ ((a.face amb).SameValue (b.face amb) ∨ (a.face amb).SameCondition (b.face amb)) := by
  by_cases hempty : a.isEmpty = true ∨ b.isEmpty = true
  · rw [equivalent_iff_of_isEmpty hempty]
    constructor
    · exact .inl
    · rintro (hboth | ⟨ha, hb, -⟩)
      · exact hboth
      · rw [ha, hb] at hempty
        simp at hempty
  · rw [not_or, Bool.not_eq_true, Bool.not_eq_true] at hempty
    obtain ⟨ha, hb⟩ := hempty
    -- Each hypothesis gives the two domains, and one of them is ordinary.
    obtain ⟨D, v, E, w, hD, hE, hordinary, hmadeA, hmadeB⟩ : ∃ (D : Domain S) (v : D.Value)
        (E : Domain S) (w : E.Value), (D.IsOrdinary ∨ D.IsImpostor) ∧ (E.IsOrdinary ∨ E.IsImpostor)
          ∧ (D.IsOrdinary ∨ E.IsOrdinary) ∧ MadeFrom D v a ∧ MadeFrom E w b := by
      rcases h with ⟨hA, hB⟩ | ⟨hA, hB⟩ | ⟨hA, hB⟩
      · obtain ⟨D, v, hD, hmadeA⟩ := hA.madeFrom ha
        obtain ⟨E, w, hE, hmadeB⟩ := hB.madeFrom hb
        exact ⟨D, v, E, w, .inl hD, .inl hE, .inl hD, hmadeA, hmadeB⟩
      · obtain ⟨D, v, hD, hmadeA⟩ := hA.madeFrom ha
        obtain ⟨E, w, hE, hmadeB⟩ := hB
        exact ⟨D, v, E, w, .inl hD, .inr hE, .inl hD, hmadeA, hmadeB⟩
      · obtain ⟨D, v, hD, hmadeA⟩ := hA
        obtain ⟨E, w, hE, hmadeB⟩ := hB.madeFrom hb
        exact ⟨D, v, E, w, .inr hD, .inl hE, .inr hE, hmadeA, hmadeB⟩
    have hstatusA : a.status amb = (Code.typed D v).status amb := hmadeA.status_eq amb
    have hstatusB : b.status amb = (Code.typed E w).status amb := hmadeB.status_eq amb
    have hfaceA : a.face amb = (Code.typed D v).face amb := congrArg Status.face hstatusA
    have hfaceB : b.face amb = (Code.typed E w).face amb := congrArg Status.face hstatusB
    have hheld : a.held = some ⟨D.type, v⟩ := congrArg Face.held hfaceA
    rw [hstatusA, hstatusB, hfaceA, hfaceB,
      Domain.equivalent_typed_iff hD hE hordinary (hsymm _ hheld), ha, hb]
    simp

/-- The raw code 16, narrowed, meets a code that claims the generic identity: no
side recognises the other, and they are equivalent because both are busy. -/
theorem equivalent_raw_impostor :
    let a : Code Catalog.setting (.erased .w8) :=
      narrow Catalog.raw ⟨.uint32, rfl, by decide⟩ (16 : UInt32)
    let b : Code Catalog.setting (.typed Catalog.impostor) := .typed Catalog.impostor (16 : UInt16)
    a.IsOrdinary ∧ b.IsImpostor ∧ (∀ held, a.held = some held → held.type.IsSymmetric)
      ∧ (a.status Catalog.Tables.empty).equivalent 2 (b.status Catalog.Tables.empty) = true := by
  intro a b
  have ha : a.IsOrdinary := by
    refine .inr ⟨Catalog.raw, (16 : UInt32), .inr ⟨?_, by decide⟩, .narrow _⟩
    exact Domain.usesDefaultRule_standard _ _ _ _ _ _
  have hb : b.IsImpostor := by
    refine ⟨Catalog.impostor, (16 : UInt16), ⟨?_, rfl, by decide⟩, .typed⟩
    exact Domain.usesDefaultRule_standard _ _ _ _ _ _
  have hsymm : ∀ held, a.held = some held → held.type.IsSymmetric := by
    rintro held ⟨⟩ v w
    exact BEq.comm
  refine ⟨ha, hb, hsymm, ?_⟩
  refine (equivalent_iff_closedForm a b _ 2 (.inr (.inl ⟨ha, hb⟩)) hsymm).mpr (.inr ⟨rfl, rfl, ?_⟩)
  exact .inr ⟨by decide, by decide⟩

end Code

end TaggedStatus
