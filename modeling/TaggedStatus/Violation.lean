/-
The broken contract of a failure.

A failure may not be built from a code that is success. There is no recovering
from the attempt: a `Violation` is what is reported on the way out, and it names
the domain and shows the code.
-/
import TaggedStatus.DomainId.Text
import TaggedStatus.Text.Outline
import TaggedStatus.Text.Quoted

set_option autoImplicit false

namespace TaggedStatus

/-- A failure was to be built from a success value (`ContractViolation::SuccessValue`). -/
structure Violation where
  /-- The name of the domain of the code. -/
  domain : String
  /-- The identity of that domain. -/
  domainId : Option DomainId
  /-- The code, as it is shown to a developer. -/
  value : String
  deriving DecidableEq

namespace Violation

/-- What happened, in a sentence (`Display for ContractViolation`). -/
def message (v : Violation) : String :=
  "failure status constructed from a success value of domain " ++ v.domain ++ ": " ++ v.value

/-- The last line written before the program stops (`terminate`). -/
def fatalLine (v : Violation) : String :=
  "fatal: " ++ v.message

/-- The violation as it is shown to a developer (`Debug for ContractViolation`). -/
def outline (v : Violation) : Outline :=
  .record "SuccessValue" [
    ("domain", .word (Quoted.quote v.domain)),
    ("domain_id", .word (DomainId.debugTextOfOption v.domainId)),
    ("value", .word (Quoted.quote v.value))]

/-- The code by which tools know the violation (`Diagnostic::code`). -/
def code (_ : Violation) : String :=
  "status_error::invariant::success_value"

/-- Advice for the developer (`Diagnostic::help`). -/
def help (_ : Violation) : String :=
  "check the domain's success rule or the code handed to this call site"

end Violation

end TaggedStatus
