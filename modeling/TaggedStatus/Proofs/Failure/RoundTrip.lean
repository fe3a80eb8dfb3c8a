/-
Failures that are narrowed and widened again.

A failure is judged anew whenever it is converted: when it is narrowed, and again when it is
widened. Each of these judgements could end the program. On the way home none of them does,
as long as the domain has not changed its mind, because the narrowed code is judged as the
value is, and the code that comes back is the one that the failure had.

Elsewhere the matter is different. A domain that shares identity and type with the one that
the failure came from is handed the value as it is, and judges it by its own rules; if it
calls the value success, the program ends on the way there. So the boundary is exact: a
checked widening into another domain is refused as that of a plain code would be, or ends
the program for the verdict of the target, or gives the failure of the same value
(`Failure.result_tryOfErased_narrow`).
-/
import TaggedStatus.Failure.Erasure
import TaggedStatus.Proofs.Erasure.Widening

set_option autoImplicit false

namespace TaggedStatus

variable {S : Setting} {w : Width}

/-- A typed code is the value it holds. -/
theorem Code.eq_typed_value {D : Domain S} (c : Code S (.typed D)) : c = .typed D c.value := by
  cases c
  rfl

namespace Failure

variable {D E : Domain S} (amb : S.Ambient)

/-! ## Narrowing -/

/-- Narrowing a failure does not end the program while the domain does not call the value
success. -/
theorem result_erase {f : Failure S (.typed D)} (fit : Fit D.type w)
    (h : D.success amb f.code.value = false) :
    ∃ hnarrow, (f.erase amb fit).result = .ok ⟨.narrow D fit f.code.value, amb, hnarrow⟩ := by
  have hnarrow : (Code.narrow D fit f.code.value).success amb = false := by
    rw [Code.success_narrow, h]
  refine ⟨hnarrow, ?_⟩
  rw [erase, Code.erase_eq, Outcome.bind_ok, ofCode_of_not_success amb hnarrow]

/-! ## Widening -/

section Widen

variable (fit : Fit D.type w) (v : D.Value)

/-- Where a narrowed code ends if a failure of another domain is made of it. -/
theorem result_tryOfErased_narrow (fitE : Fit E.type w) :
    let result := (tryOfErased amb (.narrow D fit v) E fitE).result
    if D.id ≠ E.id then result = .error (.refused (.domainMismatch E.id E.name D.id D.name))
    else if htype : D.type = E.type then
      let c := Code.typed E (ValueType.transport htype v)
      if c.success amb = true then result = .error (.aborted c.violation)
      else ∃ h, result = .ok ⟨c, amb, h⟩
    else result = .error (.refused (.valueTypeMismatch E.name)) := by
  intro result
  have hresult : result = ((Code.narrow D fit v).tryWiden E fitE).result
      >>= fun c => (ofCode amb c).result := Outcome.result_bind _ _
  rw [Code.result_tryWiden_narrow] at hresult
  split at hresult
  case isTrue hid =>
    rw [if_pos hid]
    exact hresult
  case isFalse hid =>
    rw [if_neg hid]
    split at hresult
    case isTrue htype =>
      -- The widening passes, and what is left is the judgement of the value over there.
      rw [dif_pos htype, hresult]
      exact result_ofCode amb _
    case isFalse htype =>
      rw [dif_neg htype]
      exact hresult

/-- On the way home a narrowed code meets nothing but the judgement of its value,
whether the widening is checked or not. -/
theorem result_ofErased_narrow (h : D.success amb v = false) :
    ∃ hv, (tryOfErased amb (.narrow D fit v) D fit).result = .ok ⟨.typed D v, amb, hv⟩
      ∧ (ofErased amb (.narrow D fit v) D fit).result = .ok ⟨.typed D v, amb, hv⟩ := by
  have hv : (Code.typed D v).success amb = false := h
  refine ⟨hv, ?_, ?_⟩
  · rw [tryOfErased, Code.tryWiden_narrow, Outcome.bind_ok, ofCode_of_not_success amb hv]
  · rw [ofErased, Code.widen_narrow, Outcome.bind_ok, ofCode_of_not_success amb hv]

end Widen

/-! ## There and back -/

/-- **There and back.** Narrow a failure to any width that its value fits, while the
verdict on the value is what it was when the failure was made. The program does not end,
and what comes of it can be widened.

Back into the domain that it came from, the widening gives a failure of the same value,
checked or not, at any time at which the verdict still stands. Into any other domain, and
whenever that is, a checked widening is refused for the identity if that is another one,
else for the type of the values if that is another one; else it ends the program if the
target calls the value success, and otherwise it gives a failure of the same value. -/
theorem erase_then_widen (f : Failure S (.typed D)) (fit : Fit D.type w) (amb : S.Ambient)
    (hsame : D.success amb f.code.value = D.success f.judgedIn f.code.value) :
    ∃ g : Failure S (.erased w), (f.erase amb fit).result = .ok g
      ∧ (∀ later : S.Ambient,
          D.success later f.code.value = D.success f.judgedIn f.code.value →
            ∃ h, (g.tryWiden later D fit).result = .ok ⟨.typed D f.code.value, later, h⟩
              ∧ (g.widen later D fit).result = .ok ⟨.typed D f.code.value, later, h⟩)
      ∧ ∀ (later : S.Ambient) (E : Domain S) (fitE : Fit E.type w),
          let result := (g.tryWiden later E fitE).result
          if D.id ≠ E.id then result = .error (.refused (.domainMismatch E.id E.name D.id D.name))
          else if htype : D.type = E.type then
            let v := ValueType.transport htype f.code.value
            if E.success later v = true then
              result = .error (.aborted (Code.typed E v).violation)
            else ∃ h, result = .ok ⟨.typed E v, later, h⟩
          else result = .error (.refused (.valueTypeMismatch E.name)) := by
  -- The verdict of the time when the failure was made is that it is not success.
  have hmade : D.success f.judgedIn f.code.value = false := by
    have hnot := f.not_success
    rw [f.code.eq_typed_value] at hnot
    exact hnot
  obtain ⟨hnarrow, herase⟩ := result_erase amb fit (hsame.trans hmade)
  refine ⟨_, herase, ?_, ?_⟩
  · intro later hlater
    exact result_ofErased_narrow later fit f.code.value (hlater.trans hmade)
  · intro later E fitE
    exact result_tryOfErased_narrow later fit f.code.value fitE

/-- A failure of `raw` comes home from eight bytes, and ends the program on the way to its
namesake, which calls the value success. -/
theorem erase_then_widen_namesake :
    let amb : Catalog.setting.Ambient := Catalog.Tables.empty
    let fit : Fit (Catalog.type .word32) .w8 := ⟨.uint32, rfl, by decide⟩
    let f : Failure Catalog.setting (.typed Catalog.raw) :=
      ⟨.typed Catalog.raw (1 : UInt32), amb, rfl⟩
    let there : Code Catalog.setting (.typed Catalog.namesake) :=
      .typed Catalog.namesake (1 : UInt32)
    ∃ g : Failure Catalog.setting (.erased .w8), (f.erase amb fit).result = .ok g
      ∧ (∃ h, (g.widen amb Catalog.raw fit).result = .ok ⟨f.code, amb, h⟩)
      ∧ (g.tryWiden amb Catalog.namesake fit).result = .error (.aborted there.violation) := by
  intro amb fit f there
  obtain ⟨g, herase, hhome, haway⟩ := erase_then_widen f fit amb rfl
  obtain ⟨h, -, hwiden⟩ := hhome amb rfl
  exact ⟨g, herase, ⟨h, hwiden⟩, haway amb Catalog.namesake fit⟩

end Failure

end TaggedStatus
