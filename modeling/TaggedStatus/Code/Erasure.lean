/-
Narrowing and widening.

Narrowing turns a typed code into an erased one of any width that the type of
its values fits. It cannot fail. Widening goes back to a typed code of a domain
the caller names, and is refused if the code is empty, is of a domain with
another identity, or keeps a value of another type.

There is also a widening that takes the caller's word for it. It asserts the
identity and then reads the bytes in the way of the domain it was given. When
that domain keeps values of another type the result means nothing; `widensSafely`
says when it does mean something.
-/
import TaggedStatus.Code.Basic
import TaggedStatus.Outcome

set_option autoImplicit false

namespace TaggedStatus.Code

variable {S : Setting}

/-! ## Narrowing -/

/-- A value of a domain as an erased code: the code that `StatusCode::erase` gives. -/
def narrow {w : Width} (D : Domain S) (fit : Fit D.type w) (v : D.Value) : Code S (.erased w) :=
  .narrowed (.of D fit) (fit.store v) ⟨D, fit, v, rfl, rfl⟩

/-! What an erased code says of itself is what its dispatch says of the bytes, and
that is what the domain says of the value. -/

section Narrow

variable {w : Width} (D : Domain S) (fit : Fit D.type w) (v : D.Value) (amb : S.Ambient)

@[simp] theorem id_narrow : (narrow D fit v).id = some D.id := rfl

@[simp] theorem name_narrow : (narrow D fit v).name = D.name := rfl

@[simp] theorem success_narrow : (narrow D fit v).success amb = D.success amb v :=
  Dispatch.success_of_store D fit v amb

@[simp] theorem condition_narrow : (narrow D fit v).condition amb = D.condition amb v :=
  Dispatch.condition_of_store D fit v amb

@[simp] theorem recognises_narrow : (narrow D fit v).recognises amb = D.recognises amb v :=
  Dispatch.recognises_of_store D fit v amb

@[simp] theorem held_narrow : (narrow D fit v).held = some ⟨D.type, v⟩ :=
  congrArg some (Dispatch.held_of_store D fit v)

@[simp] theorem valueOutline_narrow :
    (narrow D fit v).valueOutline = D.type.format.outline v :=
  Dispatch.outline_of_store D fit v

/-- **The bytes give back the value**: others see the narrowed code as they see the
typed one. -/
theorem status_narrow : (narrow D fit v).status amb = (Code.typed D v).status amb := by
  simp only [status, face, id_narrow, name_narrow, success_narrow, condition_narrow, held_narrow,
    recognises_narrow]
  rfl

/-- The narrowed code is shown to a developer as the typed one is. -/
theorem outline_narrow : (narrow D fit v).outline = (Code.typed D v).outline := by
  rw [outline, name_narrow, valueOutline_narrow]
  rfl

end Narrow

/-- Every erased code is empty or was narrowed from a value. -/
theorem eq_empty_or_eq_narrow {w : Width} (x : Code S (.erased w)) :
    x = .empty w ∨ ∃ (D : Domain S) (fit : Fit D.type w) (v : D.Value), x = narrow D fit v := by
  cases x with
  | empty => exact .inl rfl
  | narrowed rules payload stored =>
      obtain ⟨D, fit, v, rfl, rfl⟩ := stored
      exact .inr ⟨D, fit, v, rfl⟩

/-- The code is this value of this domain, either typed or narrowed to some width. -/
inductive MadeFrom (D : Domain S) (v : D.Value) : {shape : Shape S} → Code S shape → Prop where
  | typed : MadeFrom D v (.typed D v)
  | narrow {w : Width} (fit : Fit D.type w) : MadeFrom D v (narrow D fit v)

section MadeFrom

variable {D : Domain S} {v : D.Value} {shape : Shape S} {c : Code S shape}

/-- Others see of a code only the value it is made from and the domain of that. -/
theorem MadeFrom.status_eq (h : MadeFrom D v c) (amb : S.Ambient) :
    c.status amb = (Code.typed D v).status amb := by
  cases h with
  | typed => rfl
  | narrow fit => exact status_narrow D fit v amb

theorem MadeFrom.success_eq (h : MadeFrom D v c) (amb : S.Ambient) :
    c.success amb = D.success amb v :=
  congrArg (fun x => x.face.success) (h.status_eq amb)

theorem MadeFrom.condition_eq (h : MadeFrom D v c) (amb : S.Ambient) :
    c.condition amb = D.condition amb v :=
  congrArg (fun x => x.face.condition) (h.status_eq amb)

theorem MadeFrom.name_eq (h : MadeFrom D v c) : c.name = D.name := by
  cases h <;> rfl

theorem MadeFrom.id_eq (h : MadeFrom D v c) : c.id = some D.id := by
  cases h <;> rfl

/-- A code is shown to a developer as the value it is made from. -/
theorem MadeFrom.outline_eq (h : MadeFrom D v c) : c.outline = (Code.typed D v).outline := by
  cases h with
  | typed => rfl
  | narrow fit => exact outline_narrow D fit v

end MadeFrom

/-- Narrow a typed code (`StatusCode::erase`). -/
def erase {D : Domain S} {w : Width} (c : Code S (.typed D)) (fit : Fit D.type w) :
    Outcome (Code S (.erased w)) := do
  Outcome.report (.narrowing D.name w)
  return narrow D fit c.value

@[simp] theorem erase_eq {D : Domain S} {w : Width} (c : Code S (.typed D)) (fit : Fit D.type w) :
    c.erase fit = ⟨[.narrowing D.name w], .ok (narrow D fit c.value)⟩ := rfl

/-! ## Shapes that take codes of other shapes -/

/-- Codes of shape `source` can become codes of shape `target` (`Accepts`): without a
change, or by narrowing. -/
inductive Accepts : (target source : Shape S) → Type where
  | same (shape : Shape S) : Accepts shape shape
  | narrowing {D : Domain S} {w : Width} (fit : Fit D.type w) : Accepts (.erased w) (.typed D)

/-- Turn a code into one of a shape that accepts it (`Accepts::accept`). -/
def accept : {target source : Shape S} → Accepts target source → Code S source →
    Outcome (Code S target)
  | _, _, .same _, c => pure c
  | _, _, .narrowing fit, c => c.erase fit

/-! ## Widening -/

variable {w : Width}

/-- Widen into a domain, trusting the caller that the code came from it
(`StatusCode::widen`). The identity is asserted. The assertion is one for debugging, and
this is the program with such assertions on; a build without them goes on to read the
bytes, and is left out. -/
def widen (x : Code S (.erased w)) (E : Domain S) (fit : Fit E.type w) :
    Outcome (Code S (.typed E)) :=
  match x with
  | .empty _ => Outcome.stop (.asserted none E.id)
  | .narrowed rules payload _ =>
      if rules.id = E.id then do
        Outcome.report (.widening E.name w)
        return .typed E (fit.load payload)
      else Outcome.stop (.asserted (some rules.id) E.id)

/-- Unless the assertion of `widen` fails, the code keeps a value of the type
that is going to be read. This is what the safety contract of `StatusCode::widen` asks of
a caller. -/
def widensSafely (x : Code S (.erased w)) (E : Domain S) : Bool :=
  match x with
  | .empty _ => true
  | .narrowed rules _ _ => rules.id != E.id || rules.type == E.type

/-- Widen into a domain after checking the identity and the type of the value
(`StatusCode::try_widen`). -/
def tryWiden (x : Code S (.erased w)) (E : Domain S) (fit : Fit E.type w) :
    Outcome (Code S (.typed E)) :=
  match x with
  | .empty _ => Outcome.stop (.refused (.emptyDomain E.name))
  | .narrowed rules payload _ =>
      if rules.id ≠ E.id then do
        let error := WidenError.domainMismatch E.id E.name rules.id rules.name
        Outcome.report (.rejected error)
        Outcome.stop (.refused error)
      else if rules.type ≠ E.type then Outcome.stop (.refused (.valueTypeMismatch E.name))
      else pure (.typed E (fit.load payload))

/-! Both ways back to the domain that a code was narrowed from give back the code. -/

section RoundTrip

variable (D : Domain S) (fit : Fit D.type w) (v : D.Value)

theorem widen_narrow :
    (narrow D fit v).widen D fit = ⟨[.widening D.name w], .ok (.typed D v)⟩ := by
  rw [narrow, widen, if_pos (Dispatch.id_of D fit), Fit.load_store]
  rfl

theorem tryWiden_narrow : (narrow D fit v).tryWiden D fit = ⟨[], .ok (.typed D v)⟩ := by
  rw [narrow, tryWiden, if_neg (not_not_intro (Dispatch.id_of D fit)),
    if_neg (not_not_intro (Dispatch.type_of D fit)), Fit.load_store]
  rfl

end RoundTrip

end TaggedStatus.Code
