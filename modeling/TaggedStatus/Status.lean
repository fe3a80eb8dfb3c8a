/-
Statuses and their equivalence.

A `Status` is a code, of whatever domain and in whatever representation, reduced
to what others can learn of it: its face, and what its domain answers when it is
asked about another status. Equivalence is defined on statuses, so two codes
that show the same are interchangeable wherever codes are compared
(`Status.Interchangeable.of_eq`).

Equivalence asks four questions. Does either side recognise the other? If not,
does either side recognise the generic condition of the other, provided that the
condition is known? A status without a domain is equivalent to its like and to
nothing else, and no question is asked.
-/
import TaggedStatus.Domain.Basic

set_option autoImplicit false

namespace TaggedStatus

/-- A code of any domain, as others see it (`AnyStatus`). -/
structure Status (S : Setting) where
  /-- What the code shows of itself. -/
  face : Face S
  /-- What its domain answers when asked about another status. -/
  recognises : (depth : Nat) → View S depth → Bool

namespace Status

variable {S : Setting}

/-- What another status's rule sees of this one, at a given depth. -/
def view (x : Status S) : (depth : Nat) → View S depth
  | 0 => x.face
  | depth + 1 => (x.face, x.recognises depth)

@[simp] theorem face_view (x : Status S) (depth : Nat) : (x.view depth).face = x.face := by
  cases depth <;> rfl

@[simp] theorem ask_view (x : Status S) {depth : Nat} (third : View S depth) :
    (x.view (depth + 1)).ask third = x.recognises depth third := rfl

/-- Does the domain of `x` recognise `y` (`AnyStatus::domain_equivalent`)? The question has
one direction. -/
def recognisesStatus (depth : Nat) (x y : Status S) : Bool :=
  x.recognises depth (y.view depth)

/-- A generic condition as a status of the generic domain (`GenericCode`). -/
def generic (c : Condition) : Status S where
  face := {
    id := some .generic
    name := (Domain.generic (S := S)).name
    success := c.isSuccess
    condition := c
    held := some ⟨.condition, c⟩ }
  recognises _ view := Domain.genericRule c view.face

@[simp] theorem id_generic (c : Condition) :
    (generic c : Status S).face.id = some .generic := rfl

@[simp] theorem conditionHeld_generic (c : Condition) :
    (generic c : Status S).face.conditionHeld = some c := rfl

/-- A generic condition recognises itself, in its own domain. -/
theorem generic_recognisesStatus_iff {c : Condition} {depth : Nat} {y : Status S} :
    (generic c).recognisesStatus depth y = true
      ↔ y.face.id = some .generic ∧ y.face.conditionHeld = some c := by
  show Domain.genericRule c (y.view depth).face = true ↔ _
  rw [face_view, Domain.genericRule_iff]

/-! ## Equivalence -/

/-- **Equivalence of statuses** (`equivalent`): one side recognises the other, or the known
generic condition of the other; two statuses without a domain are equivalent. -/
def equivalent (depth : Nat) (x y : Status S) : Bool :=
  match x.face.id, y.face.id with
  | some _, some _ =>
      x.recognisesStatus depth y
        || y.recognisesStatus depth x
        || (y.face.condition != .unknown
              && x.recognisesStatus depth (generic y.face.condition))
        || (x.face.condition != .unknown
              && y.recognisesStatus depth (generic x.face.condition))
  | none, none => true
  | _, _ => false

variable {depth : Nat} {x y : Status S}

theorem equivalent_of_none (hx : x.face.id = none) (hy : y.face.id = none) :
    equivalent depth x y = true := by
  rw [equivalent, hx, hy]

theorem equivalent_of_none_some {j : DomainId} (hx : x.face.id = none) (hy : y.face.id = some j) :
    equivalent depth x y = false := by
  rw [equivalent, hx, hy]

theorem equivalent_of_some_none {i : DomainId} (hx : x.face.id = some i) (hy : y.face.id = none) :
    equivalent depth x y = false := by
  rw [equivalent, hx, hy]

/-- The four questions, for statuses that have a domain. -/
theorem equivalent_iff_of_some {i j : DomainId} (hx : x.face.id = some i)
    (hy : y.face.id = some j) :
    equivalent depth x y = true
      ↔ x.recognisesStatus depth y = true ∨ y.recognisesStatus depth x = true
        ∨ (y.face.condition ≠ .unknown
            ∧ x.recognisesStatus depth (generic y.face.condition) = true)
        ∨ (x.face.condition ≠ .unknown
            ∧ y.recognisesStatus depth (generic x.face.condition) = true) := by
  rw [equivalent, hx, hy]
  simp [or_assoc]

/-! ## Statuses that cannot be told apart -/

/-- Two statuses that nobody can tell apart: they answer every question alike, and
they are equivalent to the same statuses, whichever side they are on. -/
structure Interchangeable (x y : Status S) : Prop where
  id : x.face.id = y.face.id
  name : x.face.name = y.face.name
  success : x.face.success = y.face.success
  condition : x.face.condition = y.face.condition
  held : x.face.held = y.face.held
  valueAs : ∀ T, x.face.valueAs T = y.face.valueAs T
  recognises : ∀ depth (other : View S depth),
    x.recognises depth other = y.recognises depth other
  equivalent_left : ∀ depth (other : Status S),
    x.equivalent depth other = y.equivalent depth other
  equivalent_right : ∀ depth (other : Status S),
    other.equivalent depth x = other.equivalent depth y

/-- Equal statuses cannot be told apart, whatever the rules of others: a rule is given a
view, and a view is made from the status alone. -/
theorem Interchangeable.of_eq (h : x = y) : Interchangeable x y := by
  subst h
  constructor <;> intros <;> rfl

end Status

end TaggedStatus
