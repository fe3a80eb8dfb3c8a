/-
Conditions as values: compared by identity, shown by name, and laid out in four
bytes as their number. There is no default condition.
-/
import TaggedStatus.Condition.Basic
import TaggedStatus.Value.Format

set_option autoImplicit false

namespace TaggedStatus.Condition

/-- The layout of a condition: its number in thirty-two bits. -/
def layout : Layout Condition 4 :=
  Layout.int32.along (fun c => Int32.ofInt c.number) (fun n => (ofNumber? n.toInt).getD .unknown)
    (fun c => by cases c <;> rfl)

/-- What is known about conditions as values. -/
def format : Format Condition where
  equal a b := a == b
  outline c := .word c.name
  size := 4
  layout := some layout
  default := none

end TaggedStatus.Condition
