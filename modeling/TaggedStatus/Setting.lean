/-
The setting of a program: the types its domains draw their values from, and the
outside state their rules may read.

The library is written once for every setting. A setting names its own types of
values by `Kind`; together with the type of the generic conditions, which every
setting has, they make up `ValueType`, the types by which a value can be asked
for. Two values are of one type when these names agree, so the names have to be
decidable, but nothing else is asked of them.

`Ambient` is everything outside a value that a domain may look at when it judges
one. It is handed to each judgement, so a rule that changes its mind is an
ordinary function of a state that has changed.
-/
import TaggedStatus.Condition.Format

set_option autoImplicit false

namespace TaggedStatus

/-- The types of values and the outside state of a program. -/
structure Setting where
  /-- The outside state that rules may read. -/
  Ambient : Type
  /-- Names of the types of values, beside that of the conditions. -/
  Kind : Type
  decideKind : DecidableEq Kind
  /-- The values of a type. -/
  Carrier : Kind → Type
  /-- What is known about a type. -/
  format : (k : Kind) → Format (Carrier k)

instance (S : Setting) : DecidableEq S.Kind := S.decideKind

/-- A type of values: the generic conditions, or a type of the setting's own. -/
inductive ValueType (S : Setting) where
  | condition
  | other (k : S.Kind)
  deriving DecidableEq

namespace ValueType

variable {S : Setting}

/-- The values of a type. -/
abbrev Carrier : ValueType S → Type
  | .condition => Condition
  | .other k => S.Carrier k

/-- What is known about a type. -/
def format : (T : ValueType S) → Format T.Carrier
  | .condition => Condition.format
  | .other k => S.format k

end ValueType

/-- A value together with its type, as `AnyStatus::visit_value` hands it on. -/
structure Held (S : Setting) where
  type : ValueType S
  value : type.Carrier

namespace Held

variable {S : Setting}

/-- The value, if it is of the type asked for (`Any::downcast_ref`). -/
def as? (held : Held S) (T : ValueType S) : Option T.Carrier :=
  if h : held.type = T then some (h ▸ held.value) else none

@[simp] theorem as?_self (T : ValueType S) (v : T.Carrier) : (Held.mk T v).as? T = some v :=
  dif_pos rfl

theorem as?_of_ne {held : Held S} {T : ValueType S} (h : held.type ≠ T) : held.as? T = none :=
  dif_neg h

/-- A value comes out as the type asked for only if it went in as that. -/
theorem as?_eq_some_iff {held : Held S} {T : ValueType S} {v : T.Carrier} :
    held.as? T = some v ↔ held = ⟨T, v⟩ := by
  obtain ⟨U, u⟩ := held
  by_cases h : U = T
  · subst h
    simp
  · rw [as?_of_ne h]
    simp [h]

end Held

end TaggedStatus
