/-
What the library knows about a type of values.

Values of a domain can be compared, shown and measured; some types also have a
layout, so that their values can be kept as bare bytes, and some have a default.
A `Format` collects this for one type. Nothing is assumed of the comparison: a
type may hold values that do not equal themselves. Duplicates are exact: the clone
of a value is taken to be the value, so that a `Format` has no entry for it.
-/
import TaggedStatus.Text.Outline
import TaggedStatus.Value.Layout

set_option autoImplicit false

namespace TaggedStatus

/-- What is known about a type of values (the bounds on `StaticDomain::Value`). -/
structure Format (α : Type) where
  /-- The comparison of values. -/
  equal : α → α → Bool
  /-- A value as it is shown to a developer. -/
  outline : α → Outline
  /-- The number of bytes that a value takes up. -/
  size : Nat
  /-- How to keep a value as bytes; `none` for a type whose values cannot be
  copied byte by byte. -/
  layout : Option (Layout α size)
  /-- The default value, if there is one. -/
  default : Option α

/-! ## Widths -/

/-- The widths in which an erased value may be kept (`CanonicalWidth`). -/
inductive Width where
  | w4
  | w8
  | w16
  | w32
  deriving DecidableEq, Repr

namespace Width

/-- Every width, in ascending order. -/
def all : List Width := [.w4, .w8, .w16, .w32]

/-- The number of bytes in a width. -/
def bytes : Width → Nat
  | .w4 => 4
  | .w8 => 8
  | .w16 => 16
  | .w32 => 32

/-- The width with a given number of bytes. -/
def ofBytes? (n : Nat) : Option Width :=
  all.find? (fun w => w.bytes == n)

@[simp] theorem ofBytes?_bytes (w : Width) : ofBytes? w.bytes = some w := by
  cases w <;> rfl

end Width

/-- Does a value of this type fit a width (`fits`)? -/
def Format.fits {α : Type} (F : Format α) (w : Width) : Bool :=
  F.size ≤ w.bytes

end TaggedStatus
