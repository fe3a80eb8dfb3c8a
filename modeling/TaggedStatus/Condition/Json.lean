/-
Conditions in JSON.

A condition is stored as the text of its name. Reading also takes an object with
one member, named like the condition and null: the form in which a case without
contents may appear among cases that have some.
-/
import TaggedStatus.Condition.Basic
import TaggedStatus.Json

set_option autoImplicit false

namespace TaggedStatus.Condition

/-- The stored form of a condition (`Serialize for Errc`). -/
def toJson (c : Condition) : Json :=
  .text c.name

/-- The condition that a stored form stands for (`Deserialize for Errc`). -/
def ofJson? : Json → Option Condition
  | .text s => ofName? s
  | .object [(key, .null)] => ofName? key
  | _ => none

end TaggedStatus.Condition
