/-
A widened code equals what it was widened from.

Two tests have to fit together here that are written in different places. A checked widening
compares the identity and the type of the values before it reads the bytes. The default rule
compares the identity and asks the other side for a value of its own type. If widening were
the looser of the two, a code could be widened and from then on no longer be equal to its
source, and nothing would tell.

They are the same test. A widening gives the code of a value exactly where the source bears
the identity of the target and holds that value in the type of the target
(`Code.result_tryWiden_eq_ok_iff`), and this is where the default rule of the target finds
values to compare. It compares the value with itself. So the target recognises the source as
long as the value is one that equals itself, and it is enough that one side does: the rule of
the domain that the source came from may refuse everything.
-/
import TaggedStatus.Proofs.Equivalence.ClosedForm
import TaggedStatus.Proofs.Equivalence.Symmetry
import TaggedStatus.Proofs.Erasure.Widening

set_option autoImplicit false

namespace TaggedStatus

variable {S : Setting} {w : Width}

/-! ## What passes the checks of a widening -/

namespace Code

variable {x : Code S (.erased w)} {E : Domain S} {fit : Fit E.type w}

/-- Widening gives the code of a value exactly where the source bears the identity of the
target and holds the value in the type of the target. -/
theorem result_tryWiden_eq_ok_iff {u : E.Value} :
    (x.tryWiden E fit).result = .ok (.typed E u)
      ↔ x.id = some E.id ∧ x.held = some ⟨E.type, u⟩ := by
  rcases x.eq_empty_or_eq_narrow with rfl | ⟨D, fitD, v, rfl⟩
  · -- The empty code is refused, and it has no identity.
    constructor
    · intro h
      cases h
    · rintro ⟨hid, -⟩
      cases hid
  · rw [result_tryWiden_narrow, id_narrow, held_narrow, Option.some.injEq, Option.some.injEq]
    constructor
    · intro h
      split at h
      case isTrue => cases h
      case isFalse hid =>
        split at h
        case isFalse => cases h
        case isTrue htype =>
          cases h
          exact ⟨Decidable.not_not.mp hid, (Held.mk_transport htype v).symm⟩
    · rintro ⟨hid, hheld⟩
      have htype : D.type = E.type := congrArg Held.type hheld
      -- Under the name that the target has for the type, it is still the value `v`.
      have hvalue : (⟨E.type, ValueType.transport htype v⟩ : Held S) = ⟨E.type, u⟩ :=
        (Held.mk_transport htype v).trans hheld
      rw [if_neg (not_not_intro hid), dif_pos htype]
      cases hvalue
      rfl

/-- The source of a widening holds the value of the widened code, under its identity. -/
theorem sameValue_of_tryWiden {c : Code S (.typed E)} (h : (x.tryWiden E fit).result = .ok c)
    (hself : E.type.format.equal c.value c.value = true) (amb : S.Ambient) :
    (x.face amb).SameValue (c.face amb) := by
  cases c with
  | typed E u =>
      obtain ⟨hid, hheld⟩ := result_tryWiden_eq_ok_iff.mp h
      exact ⟨hid, E.type, u, u, hheld, rfl, hself⟩

end Code

/-! ## Comparisons with the source -/

namespace Operand

variable {D E : Domain S} {v : D.Value} {fit : Fit D.type w} {fit' : Fit E.type w}
  {c : Code S (.typed E)}

/-- What was widened equals everything that was made from the value that was narrowed: the
typed code, the narrowed one at any width, and their failures. -/
theorem equals_madeFrom_of_tryWiden (hE : E.UsesDefaultRule)
    (hc : ((Code.narrow D fit v).tryWiden E fit').result = .ok c)
    (hself : E.type.format.equal c.value c.value = true) {y : Operand S}
    (hy : Code.MadeFrom D v y.anyCode.code) (amb : S.Ambient) (depth : Nat) :
    (Operand.code c).equals amb depth y = true := by
  have hvalue : ((Code.narrow D fit v).face amb).SameValue (c.face amb) :=
    Code.sameValue_of_tryWiden hc hself amb
  cases c with
  | typed E u =>
      have hsource : y.anyCode.code.status amb = (Code.narrow D fit v).status amb := by
        rw [hy.status_eq amb, Code.status_narrow]
      rw [equals_eq_equivalent, hsource]
      -- Of the four questions the first one is enough, and it goes to the target.
      refine (Status.equivalent_iff_of_some (i := E.id) (j := D.id) rfl rfl).mpr (.inl ?_)
      exact hE.recognises_of_sameValue hvalue

/-- **A checked widening keeps the code equal to its source.** Narrow a value of any domain,
whatever its rules, and widen it into the generic domain or a domain with the default rule.
If the widening passes and gives a value that equals itself, then the widened code equals the
narrowed code and the typed code that this was narrowed from, in both orders. The two domains
need not agree on anything but what was checked. -/
theorem equals_of_tryWiden (hE : E = .generic ∨ E.UsesDefaultRule)
    (hc : ((Code.narrow D fit v).tryWiden E fit').result = .ok c)
    (hself : E.type.format.equal c.value c.value = true) (amb : S.Ambient) (depth : Nat) :
    let widened : Operand S := .code c
    let narrowed : Operand S := .code (Code.narrow D fit v)
    let typed : Operand S := .code (Code.typed D v)
    widened.equals amb depth narrowed = true ∧ narrowed.equals amb depth widened = true
      ∧ widened.equals amb depth typed = true ∧ typed.equals amb depth widened = true := by
  intro widened narrowed typed
  have hrule : E.UsesDefaultRule := by
    rcases hE with rfl | hrule
    · exact Domain.usesDefaultRule_generic
    · exact hrule
  have hnarrowed : widened.equals amb depth narrowed = true :=
    equals_madeFrom_of_tryWiden hrule hc hself (y := narrowed) (.narrow fit) amb depth
  have htyped : widened.equals amb depth typed = true :=
    equals_madeFrom_of_tryWiden hrule hc hself (y := typed) .typed amb depth
  refine ⟨hnarrowed, ?_, htyped, ?_⟩
  · rw [equals_comm, hnarrowed]
  · rw [equals_comm, htyped]

/-- A row of a table that refuses everything, and calls nothing success, is widened into a
domain that shares identity and type with it and calls the value success. The two codes have
nothing in common but the value, and are equal. -/
theorem equals_of_tryWiden_refused :
    let amb : Catalog.setting.Ambient :=
      Catalog.Tables.mk { Catalog.Table.empty with noDefault := true } .empty
    let fit : Fit (Catalog.type .int64) .w8 := ⟨.int64, rfl, by decide⟩
    let row : Code Catalog.setting (.erased .w8) := .narrow Catalog.t0 fit (5 : Int64)
    let five : Code Catalog.setting (.typed Catalog.shadow) :=
      .typed Catalog.shadow (5 : Int64)
    (∀ other, (row.status amb).recognisesStatus Catalog.depth other = false)
      ∧ row.success amb = false ∧ five.success amb = true
      ∧ (row.tryWiden Catalog.shadow fit).result = .ok five
      ∧ (Operand.code five).equals amb Catalog.depth (.code row) = true
      ∧ (Operand.code row).equals amb Catalog.depth (.code five) = true := by
  intro amb fit row five
  have hrule : Catalog.shadow = .generic ∨ Catalog.shadow.UsesDefaultRule :=
    .inr (Domain.usesDefaultRule_standard _ _ _ _ _ _)
  have hresult : (row.tryWiden Catalog.shadow fit).result = .ok five :=
    Code.result_tryWiden_eq_ok_iff.mpr ⟨rfl, rfl⟩
  obtain ⟨hthere, hback, -, -⟩ :=
    equals_of_tryWiden (D := Catalog.t0) (v := (5 : Int64)) hrule hresult rfl amb Catalog.depth
  exact ⟨fun _ => rfl, rfl, rfl, hresult, hthere, hback⟩

end Operand

end TaggedStatus
