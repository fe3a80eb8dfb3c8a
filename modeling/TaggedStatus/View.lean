/-
What one status shows to another.

A domain that is asked whether it recognises some other status sees no more of
it than this: the identity and the name of its domain, whether it is success,
its generic condition, the value it holds if the right type is asked for -- its
`Face` -- and, beyond the face, the answer of that status's own domain when it
is asked in turn about a third one.

The last point is a question about questions, and it is given a depth. A view of
depth 0 is a face alone. A view of depth `n + 1` is a face and an answer for
every view of depth `n`. So a rule that looks at a view of depth `n` may ask,
may ask what the other side would say when asked, and so on at most `n` times
over. Every rule has a depth that is enough for it, and what holds at every
depth holds of it.
-/
import TaggedStatus.DomainId.Basic
import TaggedStatus.Setting

set_option autoImplicit false

namespace TaggedStatus

/-! ## Faces -/

/-- What a status shows of itself without being asked about others (`AnyStatus` but for
`domain_equivalent`). -/
structure Face (S : Setting) where
  /-- The identity of the domain; an empty status has none. -/
  id : Option DomainId
  /-- The name of the domain. -/
  name : String
  /-- Does the status count as success? -/
  success : Bool
  /-- The nearest generic condition. -/
  condition : Condition
  /-- The value; an empty status has none. -/
  held : Option (Held S)

namespace Face

variable {S : Setting}

/-- The value, if there is one and it is of the type asked for (`value_as`). -/
def valueAs (face : Face S) (T : ValueType S) : Option T.Carrier :=
  face.held.bind (fun held => held.as? T)

/-- The value, if it is a generic condition. -/
def conditionHeld (face : Face S) : Option Condition :=
  face.valueAs .condition

end Face

/-! ## Views -/

/-- What a rule sees of another status (`&dyn AnyStatus`) when it may ask questions `n`
deep. -/
def View (S : Setting) : Nat → Type
  | 0 => Face S
  | n + 1 => Face S × (View S n → Bool)

namespace View

variable {S : Setting}

/-- The face in a view. -/
def face : {n : Nat} → View S n → Face S
  | 0, view => view
  | _ + 1, view => view.1

/-- The answer of the other side's domain about a third status. -/
def ask {n : Nat} (view : View S (n + 1)) (third : View S n) : Bool :=
  view.2 third

end View

end TaggedStatus
