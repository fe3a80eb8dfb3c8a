/-
Failures: codes that are not success.

A failure is a code together with the outside state under which it was judged
and the proof that the code was not success there. There is no other way to make
one: every constructor judges the code it is handed, under the state it is
handed, and ends the program if the code is success. Once made, a failure may be
copied and its code taken out, but not changed.

The state of the judgement is part of a failure because a domain may change its
mind. What was not success then need not be a failure now; a failure only claims
that it was not success when it was made, and `success_eq_false` says how long
the claim is good for.
-/
import TaggedStatus.Code.Erasure
import TaggedStatus.Source

set_option autoImplicit false

namespace TaggedStatus

/-- The violation that a success code would be if it were made a failure
(`ContractViolation::success_value`). -/
def Code.violation {S : Setting} {shape : Shape S} (c : Code S shape) : Violation where
  domain := c.name
  domainId := c.id
  value := c.outline.flat

/-- What is reported does not depend on how the value is kept. -/
theorem Code.MadeFrom.violation_eq {S : Setting} {shape : Shape S} {D : Domain S} {v : D.Value}
    {c : Code S shape} (h : MadeFrom D v c) : c.violation = (Code.typed D v).violation := by
  rw [violation, h.name_eq, h.id_eq, h.outline_eq]
  rfl

/-- A code that was not success when it was judged (`FailureStatus`). -/
structure Failure (S : Setting) (shape : Shape S) where
  /-- The code. -/
  code : Code S shape
  /-- The outside state under which the code was judged. -/
  judgedIn : S.Ambient
  not_success : code.success judgedIn = false

/-- A failure of any shape. -/
structure AnyFailure (S : Setting) where
  shape : Shape S
  failure : Failure S shape

namespace Failure

variable {S : Setting} {shape target : Shape S} (amb : S.Ambient)

/-! ## Making failures -/

/-- **The one checked constructor** (`FailureStatus::new`): make a code a failure, or end
the program if it is success. -/
def ofCode (c : Code S shape) : Outcome (Failure S shape) :=
  if h : c.success amb = true then Outcome.abort c.violation
  else pure { code := c, judgedIn := amb, not_success := by simpa using h }

/-- Make a copy of a code a failure (`FailureStatus::from_ref`); the code itself stays with
its owner. -/
def ofCopy (c : Code S shape) : Outcome (Failure S shape) :=
  ofCode amb c.copy

/-- Make a value of a domain a failure (`FailureStatus::from_value`). -/
def ofValue (D : Domain S) (v : D.Value) : Outcome (Failure S (.typed D)) :=
  ofCode amb (.typed D v)

/-- Build a value of a domain from something else and make it a failure
(`FailureStatus::in_place`). -/
def inPlace {α : Type} (D : Domain S) (build : α → D.Value) (a : α) :
    Outcome (Failure S (.typed D)) :=
  ofValue amb D (build a)

/-- Turn an error into a failure of a shape that accepts its code
(`From for FailureStatus`). -/
def ofSource {α : Type} [IntoCode S α]
    (acc : Code.Accepts target (IntoCode.shape α)) (a : α) : Outcome (Failure S target) := do
  let c ← Code.accept acc (IntoCode.code a)
  ofCode amb c

/-- Turn an error, with what is said about it, into a failure of a shape that
accepts its code (`FailureStatus::with`). -/
def ofSourceWith {α β : Type} [IntoCodeWith S α β]
    (acc : Code.Accepts target (IntoCodeWith.shape α β)) (a : α) (b : β) :
    Outcome (Failure S target) := do
  let c ← Code.accept acc (IntoCodeWith.code a b)
  ofCode amb c

/-- Make the default code of a shape a failure, if the shape has one
(`Default for FailureStatus`). -/
def ofDefault? (shape : Shape S) : Option (Outcome (Failure S shape)) :=
  (Code.default? shape).map (ofCode amb)

theorem ofCode_of_success {c : Code S shape} (h : c.success amb = true) :
    ofCode amb c = ⟨[.violated c.violation], .error (.aborted c.violation)⟩ := by
  rw [ofCode, dif_pos h]
  rfl

theorem ofCode_of_not_success {c : Code S shape} (h : c.success amb = false) :
    ofCode amb c = ⟨[], .ok ⟨c, amb, h⟩⟩ := by
  have hne : ¬ c.success amb = true := by simp [h]
  rw [ofCode, dif_neg hne]
  rfl

/-- A judgement ends the program or gives the failure of the code. -/
theorem result_ofCode (c : Code S shape) :
    if c.success amb = true then (ofCode amb c).result = .error (.aborted c.violation)
    else ∃ h, (ofCode amb c).result = .ok ⟨c, amb, h⟩ := by
  split
  case isTrue h => rw [ofCode_of_success amb h]
  case isFalse h =>
    rw [Bool.not_eq_true] at h
    exact ⟨h, by rw [ofCode_of_not_success amb h]⟩

/-! ## What a failure shows -/

variable {amb}

/-- A failure is not success for as long as the judgement of its own code has
not changed. -/
theorem success_eq_false (f : Failure S shape)
    (h : f.code.success amb = f.code.success f.judgedIn) : f.code.success amb = false := by
  rw [h, f.not_success]

variable (amb)

/-- A failure as others see it (`AnyStatus for FailureStatus`): like its code, and not
success whatever the domain has come to think of it. -/
def status (f : Failure S shape) : Status S where
  face := { f.code.face amb with success := false }
  recognises := f.code.recognises amb

/-- The structure of a failure, for a developer (`Debug for FailureStatus`). -/
def outline (f : Failure S shape) : Outline :=
  .tuple "FailureStatus" [f.code.outline]

end Failure

end TaggedStatus
