/-
Errors of input and output as failures.

An error of input or output becomes a code of the generic domain, by the number that the
system gave it or else by its kind, and the code is made a failure, typed or erased. The one
way in which this can end the program is that the condition is success. Two tables decide
whether it is: that of the conditions by number, in which success has the number 0, and that
of the kinds, in which it does not occur. So 0 is the only number that is dangerous, and
whatever comes from a kind is safe (`IoError.condition_eq_success_iff`).

To convert an error is to take a road to a failure, namely to judge the code as it is or
narrowed to a width, and all roads agree (`Road.ofAccepts`). What is left to say is which
value they start from.
-/
import TaggedStatus.Catalog.Tables
import TaggedStatus.IoError
import TaggedStatus.Proofs.Failure.Roads

set_option autoImplicit false

namespace TaggedStatus

variable {S : Setting} {target : Shape S} {D : Domain S}

/-! ## Conversions are roads -/

/-- The road that a conversion takes: judge the code as it is, or narrow it first. -/
def Road.ofAccepts : {target : Shape S} → Code.Accepts target (.typed D) → Road D target
  | _, .same _ => .ofSource
  | _, .narrowing fit => .sourceNarrowed fit

theorem Road.take_ofAccepts (acc : Code.Accepts target (.typed D)) (amb : S.Ambient)
    (v : D.Value) :
    (ofAccepts acc).take amb v = Failure.ofSource amb acc (Code.typed D v) := by
  cases acc <;> rfl

/-- A typed code is converted into a failure of its value, of whatever shape, unless the
value is success; then the program ends. -/
theorem Failure.result_ofSource_typed (acc : Code.Accepts target (.typed D)) (amb : S.Ambient)
    (v : D.Value) :
    let result := (Failure.ofSource amb acc (Code.typed D v)).result
    if D.success amb v = true then result = .error (.aborted (Code.typed D v).violation)
    else ∃ f : Failure S target, result = .ok f ∧ Code.MadeFrom D v f.code := by
  intro result
  have hroad : result = ((Road.ofAccepts acc).take amb v).result := by
    rw [Road.take_ofAccepts]
  rw [hroad]
  split
  case isTrue h => exact Road.result_take_of_success amb v _ h
  case isFalse h =>
    rw [Bool.not_eq_true] at h
    obtain ⟨hgoal, htake⟩ := Road.result_take_of_not_success amb v (Road.ofAccepts acc) h
    exact ⟨_, htake, Road.madeFrom_goal v _⟩

/-- Every width has room for a condition. -/
def Fit.condition (w : Width) : Fit (ValueType.condition : ValueType S) w where
  layout := Condition.layout
  layout_eq := rfl
  size_le := by
    show 4 ≤ w.bytes
    cases w <;> decide

/-! ## Codes of errors -/

namespace IoError

/-- A lent error becomes the same code as one that is handed over: both look for the number
first. -/
theorem code_lent (e : IoError) :
    (IntoCode.code (Lent.mk e) : Code S (.typed .generic)) = IntoCode.code e := by
  show _ = Code.ofCondition e.condition
  simp only [IntoCode.code, condition]
  cases e.systemNumber?.bind Condition.ofNumber? with
  | none => rfl
  | some c => rfl

theorem ofSource_lent (acc : Code.Accepts target (.typed .generic)) (amb : S.Ambient)
    (e : IoError) : Failure.ofSource amb acc (Lent.mk e) = Failure.ofSource amb acc e := by
  rw [Failure.ofSource, Failure.ofSource]
  show (Code.accept acc (IntoCode.code (Lent.mk e) : Code S (.typed .generic)) >>= _) = _
  rw [code_lent]

/-- A kind is converted into a failure of its condition, and never ends the program. -/
theorem Kind.result_ofSource (acc : Code.Accepts target (.typed .generic)) (amb : S.Ambient)
    (k : Kind) :
    ∃ f : Failure S target, (Failure.ofSource amb acc k).result = .ok f
      ∧ Code.MadeFrom .generic k.condition f.code := by
  have hresult := Failure.result_ofSource_typed acc amb k.condition
  have hfailure : ¬ (Domain.generic : Domain S).success amb k.condition = true := by
    intro hsuccess
    exact k.condition_ne_success (beq_iff_eq.mp hsuccess)
  rw [if_neg hfailure] at hresult
  exact hresult

/-- An error is converted into a failure of its condition, unless it is the one of the number
0; then the program ends. -/
theorem result_ofSource (acc : Code.Accepts target (.typed .generic)) (amb : S.Ambient)
    (e : IoError) :
    let result := (Failure.ofSource amb acc e).result
    if e = .system 0 then
      result = .error (.aborted (Code.ofCondition .success : Code S _).violation)
    else ∃ f : Failure S target, result = .ok f ∧ Code.MadeFrom .generic e.condition f.code := by
  intro result
  have hresult := Failure.result_ofSource_typed acc amb e.condition
  have hsuccess : (Domain.generic : Domain S).success amb e.condition = true ↔ e = .system 0 :=
    beq_iff_eq.trans condition_eq_success_iff
  split
  case isTrue h =>
    have hcondition : e.condition = .success := condition_eq_success_iff.mpr h
    rw [if_pos (hsuccess.mpr h)] at hresult
    rw [← hcondition]
    exact hresult
  case isFalse h =>
    rw [if_neg (fun hs => h (hsuccess.mp hs))] at hresult
    exact hresult

end IoError

/-- **Errors of input and output become codes and failures of the generic domain.** The code
of an error, handed over or lent, is that of one condition. If the system gave it the number
of a condition, it is that condition; otherwise it is the condition of its kind, which is the
unknown one if the system gave it any other number.

There is room for it at every width. Made a failure, typed or erased at any of them, handed
over or lent, it ends the program if it is the error of the number 0, and in every other case
gives a failure of the same condition. A kind by itself never ends the program. -/
theorem io_errors_convert :
    (∀ e : IoError,
      (IntoCode.code e : Code S (.typed .generic)) = .typed .generic e.condition
      ∧ (IntoCode.code (IoError.Lent.mk e) : Code S (.typed .generic))
          = .typed .generic e.condition
      ∧ (∀ c : Condition, e = .system c.number → e.condition = c)
      ∧ ((∀ c : Condition, e ≠ .system c.number) →
          e.condition = e.kind.condition
          ∧ ∀ n, e = .system n → e.kind.condition = .unknown))
    ∧ (∀ w : Width, Nonempty (Code.Accepts (.erased w) (.typed .generic : Shape S)))
    ∧ ∀ {target : Shape S} (acc : Code.Accepts target (.typed .generic)) (amb : S.Ambient),
        (∀ e : IoError,
          let result := (Failure.ofSource amb acc e).result
          (Failure.ofSource amb acc (IoError.Lent.mk e)).result = result
          ∧ if e = .system 0 then
              result = .error (.aborted (Code.ofCondition .success : Code S _).violation)
            else ∃ f : Failure S target, result = .ok f
              ∧ Code.MadeFrom .generic e.condition f.code)
        ∧ ∀ k : IoError.Kind, ∃ f : Failure S target,
            (Failure.ofSource amb acc k).result = .ok f
              ∧ Code.MadeFrom .generic k.condition f.code := by
  refine ⟨?_, fun w => ⟨.narrowing (.condition w)⟩, ?_⟩
  · intro e
    refine ⟨rfl, IoError.code_lent e, ?_, ?_⟩
    · rintro c rfl
      exact IoError.condition_system_number c
    · intro hother
      refine ⟨IoError.condition_of_no_number hother, ?_⟩
      rintro n rfl
      apply IoError.Kind.condition_ofSystemNumber
      intro c hc
      exact hother c (congrArg IoError.system hc.symm)
  · intro target acc amb
    refine ⟨?_, IoError.Kind.result_ofSource acc amb⟩
    intro e result
    exact ⟨congrArg Outcome.result (IoError.ofSource_lent acc amb e),
      IoError.result_ofSource acc amb e⟩

/-- The system has a kind for its number 122, but neither the number nor the kind belongs to a
condition. Lent and narrowed, the error is a failure of the unknown condition. An error
without a number goes by its kind, and so does the kind by itself: what is not found is a
missing file. The error of the number 0 ends the program. -/
theorem io_errors_convert_quota :
    let amb : Catalog.setting.Ambient := Catalog.Tables.empty
    let acc : Code.Accepts (.erased .w4) (.typed .generic : Shape Catalog.setting) :=
      .narrowing (.condition .w4)
    let quota : IoError := .system 122
    let notFound : IoError := .simple .notFound
    quota.kind = .quotaExceeded
      ∧ (∀ c : Condition, quota ≠ .system c.number)
      ∧ quota.condition = .unknown
      ∧ (∃ f, (Failure.ofSource amb acc (IoError.Lent.mk quota)).result = .ok f
          ∧ Code.MadeFrom .generic .unknown f.code)
      ∧ (∀ c : Condition, notFound ≠ .system c.number)
      ∧ notFound.condition = .noSuchFileOrDirectory
      ∧ (∃ f, (Failure.ofSource amb acc notFound).result = .ok f
          ∧ Code.MadeFrom .generic .noSuchFileOrDirectory f.code)
      ∧ (∃ f, (Failure.ofSource amb acc IoError.Kind.notFound).result = .ok f
          ∧ Code.MadeFrom .generic .noSuchFileOrDirectory f.code)
      ∧ (Failure.ofSource amb acc (IoError.system 0)).result
          = .error (.aborted (Code.ofCondition .success : Code Catalog.setting _).violation) := by
  intro amb acc quota notFound
  obtain ⟨hcodes, -, hfailures⟩ := io_errors_convert (S := Catalog.setting)
  obtain ⟨herrors, hkinds⟩ := hfailures acc amb
  have hquota_number : ∀ c : Condition, quota ≠ .system c.number := by
    intro c hc
    have hnumber : c.number = 122 := (IoError.system.inj hc).symm
    have hnone : Condition.ofNumber? 122 = none := rfl
    exact Condition.ofNumber?_eq_none_iff.mp hnone c hnumber
  have hquota : quota.condition = .unknown := by
    obtain ⟨-, -, -, hkind⟩ := hcodes quota
    obtain ⟨hcondition, hunknown⟩ := hkind hquota_number
    exact hcondition.trans (hunknown 122 rfl)
  have hnotFound_number : ∀ c : Condition, notFound ≠ .system c.number := by
    intro c
    exact IoError.noConfusion
  have hnotFound : notFound.condition = .noSuchFileOrDirectory := by
    obtain ⟨-, -, -, hkind⟩ := hcodes notFound
    exact (hkind hnotFound_number).1
  obtain ⟨hlent, hresult⟩ := herrors quota
  rw [if_neg (by decide), ← hlent, hquota] at hresult
  have hmissing := (herrors notFound).2
  rw [if_neg (by decide), hnotFound] at hmissing
  have hzero := (herrors (.system 0)).2
  rw [if_pos rfl] at hzero
  exact ⟨rfl, hquota_number, hquota, hresult, hnotFound_number, hnotFound, hmissing,
    hkinds .notFound, hzero⟩

end TaggedStatus
