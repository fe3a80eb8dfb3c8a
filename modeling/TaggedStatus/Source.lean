/-
Sources of codes: types of errors that can be turned into codes.

A type of errors opts in by saying which shape of code its errors become, and
how. Some errors need something said with them, such as what was being done when
they arose; those are `IntoCodeWith` it. Codes are their own sources; a code that
is only lent is a source of copies.
-/
import TaggedStatus.Code.Basic

set_option autoImplicit false

namespace TaggedStatus

/-- Every `α` can be turned into a code, all of one shape (`IntoStatusCode`). A conversion
is a function of the error: it reads nothing else, always ends and reports nothing. -/
class IntoCode (S : Setting) (α : Type) where
  /-- The shape of the codes. -/
  shape : Shape S
  /-- The code that an error becomes (`into_status_code`). -/
  code : α → Code S shape

/-- Every `α` can be turned into a code when a `β` is given with it (`IntoStatusCodeWith`).
Such a conversion, too, is a function of what it is given and reports nothing. -/
class IntoCodeWith (S : Setting) (α β : Type) where
  /-- The shape of the codes. -/
  shape : Shape S
  /-- The code that an error becomes with what is said about it (`into_status_code_with`). -/
  code : α → β → Code S shape

variable {S : Setting}

instance (shape : Shape S) : IntoCode S (Code S shape) where
  shape := shape
  code c := c

/-- A code that stays with its owner (`&StatusCode`). -/
structure Lent (S : Setting) (shape : Shape S) where
  code : Code S shape

instance (shape : Shape S) : IntoCode S (Lent S shape) where
  shape := shape
  code lent := lent.code.copy

instance : IntoCode S Condition where
  shape := .typed .generic
  code := Code.ofCondition

end TaggedStatus
