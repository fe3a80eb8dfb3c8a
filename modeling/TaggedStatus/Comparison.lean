/-
The comparisons that a program writes.

A program compares codes, failures and generic conditions with each other, in
either order. All of these comparisons are the equivalence of statuses; a failure
takes part as the code it wraps, and a condition as the code of the generic
domain. Two conditions are simply equal or not.
-/
import TaggedStatus.Failure.Basic

set_option autoImplicit false

namespace TaggedStatus

/-- Something that can stand on either side of a comparison. -/
inductive Operand (S : Setting) where
  | code {shape : Shape S} (c : Code S shape)
  | failure {shape : Shape S} (f : Failure S shape)
  | condition (c : Condition)

namespace Operand

variable {S : Setting} (amb : S.Ambient) (depth : Nat)

/-- The comparison (`PartialEq::eq`, each pair of operands with a body of its own). -/
def equals : Operand S → Operand S → Bool
  | .code a, .code b => (a.status amb).equivalent depth (b.status amb)
  | .code a, .failure b => (a.status amb).equivalent depth (b.code.status amb)
  | .failure a, .code b => (a.code.status amb).equivalent depth (b.status amb)
  | .failure a, .failure b => (a.code.status amb).equivalent depth (b.code.status amb)
  | .code a, .condition c => (a.status amb).equivalent depth (.generic c)
  | .condition c, .code a => (a.status amb).equivalent depth (.generic c)
  | .failure a, .condition c => (a.code.status amb).equivalent depth (.generic c)
  | .condition c, .failure a => (Status.generic c).equivalent depth (a.code.status amb)
  | .condition a, .condition b => a == b

/-- The negated comparison (`PartialEq::ne`). -/
def differs (x y : Operand S) : Bool :=
  !x.equals amb depth y

end Operand

end TaggedStatus
