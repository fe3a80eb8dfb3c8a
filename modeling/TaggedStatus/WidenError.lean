/-
Why a checked widening was refused.

An erased code may be empty, may belong to another domain than the one asked
for, or may bear the right identity and hold a value of another type. The
messages name the domains by name and identity; a developer's view and a stable
code for tools go with each cause.
-/
import TaggedStatus.DomainId.Text
import TaggedStatus.Text.Outline
import TaggedStatus.Text.Quoted

set_option autoImplicit false

namespace TaggedStatus

/-- Why a checked widening was refused (`ErasureError`). -/
inductive WidenError where
  /-- The code is empty. -/
  | emptyDomain (expected : String)
  /-- The code belongs to another domain. -/
  | domainMismatch (expected : DomainId) (expectedName : String)
      (found : DomainId) (foundName : String)
  /-- Two domains claim one identity but keep values of different types. -/
  | valueTypeMismatch (domain : String)
  deriving DecidableEq

namespace WidenError

/-- The message for a user (`Display for ErasureError`). -/
def message : WidenError → String
  | .emptyDomain expected =>
      "erased status code is empty, expected a code of domain " ++ expected
  | .domainMismatch expected expectedName found foundName =>
      "erased status code belongs to " ++ foundName ++ " (" ++ found.text ++ "), not "
        ++ expectedName ++ " (" ++ expected.text ++ ")"
  | .valueTypeMismatch domain =>
      "domain " ++ domain ++ " stored a value of a different type than it declares"

/-- The error as it is shown to a developer (`Debug for ErasureError`). -/
def outline : WidenError → Outline
  | .emptyDomain expected =>
      .record "EmptyDomain" [("expected", .word (Quoted.quote expected))]
  | .domainMismatch expected expectedName found foundName =>
      .record "DomainMismatch" [
        ("expected", .word expected.debugText),
        ("expected_name", .word (Quoted.quote expectedName)),
        ("found", .word found.debugText),
        ("found_name", .word (Quoted.quote foundName))]
  | .valueTypeMismatch domain =>
      .record "ValueTypeMismatch" [("domain", .word (Quoted.quote domain))]

/-- The code by which tools know the error (`Diagnostic::code`). -/
def code : WidenError → String
  | .emptyDomain .. => "status_core::erasure::empty"
  | .domainMismatch .. => "status_core::erasure::domain_mismatch"
  | .valueTypeMismatch .. => "status_core::erasure::value_type"

/-- Advice, where there is some (`Diagnostic::help`). -/
def help? : WidenError → Option String
  | .domainMismatch .. => some "widen into the domain the code was narrowed from"
  | _ => none

end WidenError

end TaggedStatus
