/-
Operations that may stop.

Narrowing, widening and the building of failures leave a trace of events, and
some of them do not come to an end: a checked widening may be refused, an
unchecked one may fail its assertion, and a failure that would be success stops
the program. An `Outcome` is the trace together with the result or the reason
for stopping. Operations are chained with `bind`: what was traced before a stop
is kept, and nothing comes after it.
-/
import TaggedStatus.Value.Format
import TaggedStatus.Violation
import TaggedStatus.WidenError

set_option autoImplicit false

namespace TaggedStatus

/-! ## Events -/

/-- How much an event matters (`tracing::Level`). -/
inductive Level where
  | trace
  | warn
  | error
  deriving DecidableEq, Repr

/-- Something that an operation reports while it runs. -/
inductive Event where
  /-- A code of this domain was narrowed to this width. -/
  | narrowing (domain : String) (width : Width)
  /-- An erased code of this width was taken for one of this domain, unchecked. -/
  | widening (domain : String) (width : Width)
  /-- A checked widening met a code of another domain. -/
  | rejected (error : WidenError)
  /-- A failure was to be built from success; the program is about to stop. -/
  | violated (violation : Violation)
  deriving DecidableEq

namespace Event

/-- How much the event matters. -/
def level : Event → Level
  | .narrowing .. | .widening .. => .trace
  | .rejected .. => .warn
  | .violated .. => .error

/-- What the event says. -/
def message : Event → String
  | .narrowing .. => "narrowing status code"
  | .widening .. => "widening status code"
  | .rejected .. => "rejected erased status code widening"
  | .violated .. => "failure status invariant violated; aborting"

/-- The particulars of the event, by name. -/
def fields : Event → List (String × String)
  | .narrowing domain width | .widening domain width =>
      [("domain", domain), ("width", toString width.bytes)]
  | .rejected error => [("error", error.message)]
  | .violated violation =>
      [("domain", violation.domain),
       ("domain_id", DomainId.debugTextOfOption violation.domainId),
       ("error", violation.message)]

end Event

/-! ## Outcomes -/

/-- Why an operation did not come to an end. -/
inductive Stop where
  /-- The program ends here: a failure was to be built from success. -/
  | aborted (violation : Violation)
  /-- The assertion of an unchecked widening failed: the code bears one identity
  (or none) and the other was asked for. -/
  | asserted (found : Option DomainId) (expected : DomainId)
  /-- A checked widening was refused. -/
  | refused (error : WidenError)
  deriving DecidableEq

/-- The message that goes with a stop. -/
def Stop.message : Stop → String
  | .aborted violation => violation.fatalLine
  | .asserted found expected =>
      "assertion `left == right` failed: widening an erased status code into the "
        ++ "wrong domain\n  left: " ++ DomainId.debugTextOfOption found
        ++ "\n right: " ++ DomainId.debugTextOfOption (some expected)
  | .refused error => error.message

/-- What an operation did: the events it reported, and its result unless it
stopped. -/
structure Outcome (α : Type) where
  events : List Event
  result : Except Stop α

namespace Outcome

variable {α β : Type}

/-- Nothing happened, and this is the result. -/
def done (a : α) : Outcome α := ⟨[], .ok a⟩

/-- Report an event. -/
def report (event : Event) : Outcome Unit := ⟨[event], .ok ()⟩

/-- Stop without a result. -/
def stop (reason : Stop) : Outcome α := ⟨[], .error reason⟩

/-- One operation after another; after a stop there is no other. -/
def bind (x : Outcome α) (next : α → Outcome β) : Outcome β :=
  match x.result with
  | .ok a => ⟨x.events ++ (next a).events, (next a).result⟩
  | .error reason => ⟨x.events, .error reason⟩

instance : Monad Outcome where
  pure := done
  bind := bind

/-- Report a violation and end the program (`terminate`). -/
def abort (violation : Violation) : Outcome α :=
  ⟨[.violated violation], .error (.aborted violation)⟩

/-! What the operations on outcomes do, by cases on whether the first one came
to an end. -/

@[simp] theorem pure_eq (a : α) : (pure a : Outcome α) = ⟨[], .ok a⟩ := rfl

@[simp] theorem bind_ok (events : List Event) (a : α) (next : α → Outcome β) :
    (Outcome.mk events (.ok a) >>= next) = ⟨events ++ (next a).events, (next a).result⟩ := rfl

@[simp] theorem bind_error (events : List Event) (reason : Stop) (next : α → Outcome β) :
    (Outcome.mk events (.error reason : Except Stop α) >>= next) = ⟨events, .error reason⟩ := rfl

/-- The result of a chain is that of its last operation, unless an earlier one stops. -/
theorem result_bind (x : Outcome α) (next : α → Outcome β) :
    (x >>= next).result = x.result >>= fun a => (next a).result := by
  obtain ⟨events, reason | a⟩ := x
  · rfl
  · rfl

/-- Operations may be grouped in any way: the traces are joined and the first stop
counts. -/
instance : LawfulMonad Outcome := .mk' Outcome
  (by
    rintro α ⟨events, _ | a⟩
    · rfl
    · show Outcome.mk (events ++ []) (Except.ok a) = _
      rw [List.append_nil])
  (fun _ _ => rfl)
  (by
    rintro α β γ ⟨events, reason | a⟩ next last
    · rfl
    · rw [bind_ok, bind_ok]
      cases hnext : next a with
      | mk later result =>
          cases result with
          | error => rfl
          | ok b =>
              rw [bind_ok, bind_ok, List.append_assoc])

end Outcome

end TaggedStatus
