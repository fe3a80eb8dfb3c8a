/-
Payloads: the bytes in which an erased code keeps its value.

A payload has the full width whatever the value, and says nothing about the type
of the value. A type `Fit`s a width if its values have a layout and are no wider;
storing writes the value at the front and fills up with zeros, loading reads the
front again. What was stored is loaded unchanged (`load_store`); a payload that
was stored through another type's layout loads as something unspecified.
-/
import TaggedStatus.Setting

set_option autoImplicit false

namespace TaggedStatus

/-- As many bytes as the width says (`ErasedValue`). -/
structure Payload (w : Width) where
  bytes : List UInt8
  length_eq : bytes.length = w.bytes
  deriving DecidableEq

/-- An erased value as it is shown to a developer (`Debug for ErasedValue`): nothing but
its width. -/
def Payload.describe (w : Width) : String :=
  "ErasedValue \x7b width: " ++ toString w.bytes ++ ", .. \x7d"

/-- The values of a type can be kept in a payload of a width (`Fits::OK`). -/
structure Fit {S : Setting} (T : ValueType S) (w : Width) where
  /-- The layout of the type. -/
  layout : Layout T.Carrier T.format.size
  layout_eq : T.format.layout = some layout
  size_le : T.format.size ≤ w.bytes

namespace Fit

variable {S : Setting} {T : ValueType S} {w : Width}

/-- There is no choice in how a type fits a width. -/
instance : Subsingleton (Fit T w) where
  allEq a b := by
    have hlayout : a.layout = b.layout := by
      have heq : some a.layout = some b.layout := by rw [← a.layout_eq, ← b.layout_eq]
      exact Option.some.inj heq
    cases a
    cases b
    cases hlayout
    rfl

/-- Decide whether a type fits a width. -/
def find? (T : ValueType S) (w : Width) : Option (Fit T w) :=
  match h : T.format.layout with
  | none => none
  | some layout => if hle : T.format.size ≤ w.bytes then some ⟨layout, h, hle⟩ else none

/-- Keep a value in a payload (`ErasedValue::store`): the bytes of the value, then zeros. -/
def store (fit : Fit T w) (v : T.Carrier) : Payload w where
  bytes := fit.layout.write v ++ List.replicate (w.bytes - T.format.size) 0
  length_eq := by
    rw [List.length_append, fit.layout.length_write, List.length_replicate]
    exact Nat.add_sub_cancel' fit.size_le

/-- The value at the front of a payload (`ErasedValue::load`). -/
def load (fit : Fit T w) (payload : Payload w) : T.Carrier :=
  fit.layout.read (payload.bytes.take T.format.size)

/-- **What was stored is loaded**, at any width that the type fits. -/
@[simp] theorem load_store (fit : Fit T w) (v : T.Carrier) : fit.load (fit.store v) = v := by
  have hlen : (fit.layout.write v).length = T.format.size := fit.layout.length_write v
  rw [load, store, List.take_left' hlen, fit.layout.read_write]

end Fit

end TaggedStatus
