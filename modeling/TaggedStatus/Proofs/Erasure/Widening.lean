/-
What a checked widening says.

An erased code does not have the type of its value any more. It has the name of
that type and the bytes, and widening it into a domain means reading the bytes in
the way of that domain. That is right for one reason only: the identity and the
name of the type are compared first, and a type fits a width in one way, so that
bytes which were stored as values of a type are read as values of it
(`Fit.load_store_of_eq`).

The checks come in an order, and what is refused is refused for the first of them
that fails: there is no domain, or it has another identity, or the identity is the
same and the values are of another type. So there is one lemma for each way in
which a narrowed code may relate to the target, and they leave nothing out. Two
domains that share an identity and a type pass the checks: then the value is handed
over from one to the other, whatever either thinks of it.
-/
import TaggedStatus.Catalog.Domains
import TaggedStatus.Code.Erasure

set_option autoImplicit false

namespace TaggedStatus

variable {S : Setting} {w : Width}

/-! ## Values of one type under two names -/

/-- A value of a type, under the other name of the type. -/
def ValueType.transport {T U : ValueType S} (h : T = U) (v : T.Carrier) : U.Carrier := h ▸ v

/-- It is the same value, of the same type. -/
theorem Held.mk_transport {T U : ValueType S} (h : T = U) (v : T.Carrier) :
    (⟨U, ValueType.transport h v⟩ : Held S) = ⟨T, v⟩ := by
  subst h
  rfl

/-- Bytes that were stored as a value of a type are read as that value, under
whichever name of the type they are read. -/
theorem Fit.load_store_of_eq {T U : ValueType S} (h : T = U) (fit : Fit T w) (fit' : Fit U w)
    (v : T.Carrier) : fit'.load (fit.store v) = ValueType.transport h v := by
  subst h
  -- There is one way for a type to fit a width, so both sides use the same layout.
  rw [Subsingleton.elim fit' fit, Fit.load_store]
  rfl

namespace Code

/-! ## The three answers about a narrowed code -/

section Narrow

variable {D E : Domain S} (fit : Fit D.type w) (fit' : Fit E.type w) (v : D.Value)

/-- A code of a domain with another identity is refused with both identities and both
names, and a warning goes with it. -/
theorem tryWiden_narrow_of_id_ne (hid : D.id ≠ E.id) :
    (narrow D fit v).tryWiden E fit'
      = ⟨[.rejected (.domainMismatch E.id E.name D.id D.name)],
          .error (.refused (.domainMismatch E.id E.name D.id D.name))⟩ := by
  -- What is compared is the identity in the dispatch, and it is that of the domain.
  have hrules : (Dispatch.of D fit).id ≠ E.id := hid
  rw [narrow, tryWiden, if_pos hrules]
  rfl

/-- Where the identity is the same, the type of the values decides. -/
theorem tryWiden_narrow_of_type_ne (hid : D.id = E.id) (htype : D.type ≠ E.type) :
    (narrow D fit v).tryWiden E fit' = ⟨[], .error (.refused (.valueTypeMismatch E.name))⟩ := by
  have hrules : ¬ (Dispatch.of D fit).id ≠ E.id := not_not_intro hid
  have hrulesType : (Dispatch.of D fit).type ≠ E.type := htype
  rw [narrow, tryWiden, if_neg hrules, if_pos hrulesType]
  rfl

/-- Where both are the same, the value changes hands as it is. -/
theorem tryWiden_narrow_of_type_eq (hid : D.id = E.id) (htype : D.type = E.type) :
    (narrow D fit v).tryWiden E fit' = ⟨[], .ok (.typed E (ValueType.transport htype v))⟩ := by
  have hrules : ¬ (Dispatch.of D fit).id ≠ E.id := not_not_intro hid
  have hrulesType : ¬ (Dispatch.of D fit).type ≠ E.type := not_not_intro htype
  rw [narrow, tryWiden, if_neg hrules, if_neg hrulesType, Fit.load_store_of_eq htype fit fit' v]
  rfl

/-- The three answers in one. -/
theorem result_tryWiden_narrow :
    ((narrow D fit v).tryWiden E fit').result
      = if D.id ≠ E.id then .error (.refused (.domainMismatch E.id E.name D.id D.name))
        else if htype : D.type = E.type then .ok (.typed E (ValueType.transport htype v))
        else .error (.refused (.valueTypeMismatch E.name)) := by
  by_cases hid : D.id = E.id
  · rw [if_neg (not_not_intro hid)]
    by_cases htype : D.type = E.type
    · rw [dif_pos htype, tryWiden_narrow_of_type_eq fit fit' v hid htype]
    · rw [dif_neg htype, tryWiden_narrow_of_type_ne fit fit' v hid htype]
  · rw [if_pos hid, tryWiden_narrow_of_id_ne fit fit' v hid]

end Narrow

/-! ## No value is misread -/

/-- What comes out of a checked widening is what the code holds, of the type that it
holds it in. -/
theorem held_of_tryWiden {x : Code S (.erased w)} {E : Domain S} {fit : Fit E.type w}
    {c : Code S (.typed E)} (h : (x.tryWiden E fit).result = .ok c) : c.held = x.held := by
  rcases x.eq_empty_or_eq_narrow with rfl | ⟨D, fitD, v, rfl⟩
  · cases h
  · -- Of the three answers, one gives a code.
    rw [result_tryWiden_narrow] at h
    split at h
    case isTrue => cases h
    case isFalse =>
      split at h
      case isFalse => cases h
      case isTrue htype =>
        cases h
        rw [held_narrow]
        exact congrArg some (Held.mk_transport htype v)

/-- **Checked widening is exact.** Take any target and any width that its values fit.

The empty code is refused as empty. Any other code was narrowed from a value of a
domain, and is refused for the identity of that domain if this is another one than
that of the target, else for the type of its values if that is another one, and else
gives a code of the target that holds exactly the value. So nothing is ever read as a
type in which it was not stored; and narrowing a code of the target and widening it
again gives back the code. -/
theorem tryWiden_exact (E : Domain S) (fit : Fit E.type w) :
    ((Code.empty w).tryWiden E fit).result = .error (.refused (.emptyDomain E.name))
    ∧ (∀ x : Code S (.erased w),
        x = .empty w ∨ ∃ (D : Domain S) (fitD : Fit D.type w) (v : D.Value), x = narrow D fitD v)
    ∧ (∀ (D : Domain S) (fitD : Fit D.type w) (v : D.Value),
        ((narrow D fitD v).tryWiden E fit).result
          = if D.id ≠ E.id then .error (.refused (.domainMismatch E.id E.name D.id D.name))
            else if htype : D.type = E.type then .ok (.typed E (ValueType.transport htype v))
            else .error (.refused (.valueTypeMismatch E.name)))
    ∧ (∀ (x : Code S (.erased w)) (c : Code S (.typed E)),
        (x.tryWiden E fit).result = .ok c → c.held = x.held)
    ∧ ∀ v : E.Value, ((Code.typed E v).erase fit >>= fun x => x.tryWiden E fit).result
        = .ok (.typed E v) := by
  refine ⟨rfl, eq_empty_or_eq_narrow, ?_, ?_, ?_⟩
  · intro D fitD v
    exact result_tryWiden_narrow fitD fit v
  · intro x c h
    exact held_of_tryWiden h
  · intro v
    rw [erase_eq, Outcome.bind_ok]
    show ((narrow E fit v).tryWiden E fit).result = _
    rw [tryWiden_narrow]

/-- A code of `raw` passes for one of its namesake, which has another name and other
rules, and the value is the same. -/
theorem tryWiden_namesake :
    let fit : Fit (Catalog.type .word32) .w8 := ⟨.uint32, rfl, by decide⟩
    let x : Code Catalog.setting (.erased .w8) := narrow Catalog.raw fit (7 : UInt32)
    let c : Code Catalog.setting (.typed Catalog.namesake) := .typed Catalog.namesake (7 : UInt32)
    (x.tryWiden Catalog.namesake fit).result = .ok c ∧ c.held = x.held := by
  intro fit x c
  obtain ⟨-, -, hanswer, hheld, -⟩ := tryWiden_exact Catalog.namesake fit
  have hresult : (x.tryWiden Catalog.namesake fit).result = .ok c :=
    hanswer Catalog.raw fit (7 : UInt32)
  exact ⟨hresult, hheld x c hresult⟩

end Code

end TaggedStatus
