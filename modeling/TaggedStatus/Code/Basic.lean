/-
Codes.

A code is a value together with the domain that judges it. It comes in two
shapes. A typed code names its domain in its type. An erased code names only a
width: it is empty, or it keeps a dispatch of the domain's rules beside a payload
of bytes, and the two are known to belong together, because both come from one
domain and a value of it.

So each question to a code has three answers, one for each way of keeping a
code: a typed code asks its domain about the value, an empty code has a fixed
answer, and any other erased code asks its dispatch about the payload.

A name in parentheses, here and in the other modules, is the one by which a program
calls what is defined: a `Code` is a `StatusCode`.
-/
import TaggedStatus.Code.Dispatch
import TaggedStatus.Status
import TaggedStatus.Text.Quoted

set_option autoImplicit false

namespace TaggedStatus

/-- How a code keeps its domain and its value (`Domain`). -/
inductive Shape (S : Setting) where
  /-- The domain is fixed, and the value is kept as it is. -/
  | typed (D : Domain S)
  /-- The domain is known to the code alone, and the value is kept as bytes (`Erased`). -/
  | erased (w : Width)

/-- A code of a given shape (`StatusCode`). -/
inductive Code (S : Setting) : Shape S → Type where
  /-- A value of a fixed domain. -/
  | typed (D : Domain S) (value : D.Value) : Code S (.typed D)
  /-- No domain and no value. -/
  | empty (w : Width) : Code S (.erased w)
  /-- The rules of some domain, and a value of it as bytes. -/
  | narrowed {w : Width} (rules : Dispatch S w) (payload : Payload w)
      (stored : ∃ (D : Domain S) (fit : Fit D.type w) (v : D.Value),
        rules = .of D fit ∧ payload = fit.store v) : Code S (.erased w)

namespace Code

variable {S : Setting} {shape : Shape S}

/-! ## What a code says of itself -/

/-- The identity of the domain (`Domain::id`); an empty code has none. -/
def id : {shape : Shape S} → Code S shape → Option DomainId
  | _, .typed D _ => some D.id
  | _, .empty _ => none
  | _, .narrowed rules _ _ => some rules.id

/-- The name of the domain (`Domain::name`). -/
def name : {shape : Shape S} → Code S shape → String
  | _, .typed D _ => D.name
  | _, .empty _ => "empty"
  | _, .narrowed rules _ _ => rules.name

/-- Is there no domain (`StatusCode::is_empty`)? -/
def isEmpty (c : Code S shape) : Bool :=
  c.id.isNone

theorem exists_id_of_not_isEmpty {c : Code S shape} (h : c.isEmpty = false) :
    ∃ i, c.id = some i :=
  Option.isSome_iff_exists.mp (Option.isNone_eq_false_iff.mp h)

/-- Does the code have a domain, and does that domain call the value success
(`StatusCode::success`)? -/
def success (amb : S.Ambient) : {shape : Shape S} → Code S shape → Bool
  | _, .typed D v => D.success amb v
  | _, .empty _ => false
  | _, .narrowed rules payload _ => rules.success amb payload

/-- Does the code have a domain, and does that domain not call the value success
(`StatusCode::failure`)? An empty code is neither success nor failure. -/
def failure (amb : S.Ambient) (c : Code S shape) : Bool :=
  c.id.isSome && !c.success amb

/-- A code that is not success is a failure, unless it is empty. -/
theorem failure_of_not_success {amb : S.Ambient} {c : Code S shape} (h : c.success amb = false) :
    c.failure amb = !c.isEmpty := by
  rw [failure, isEmpty, h]
  cases c.id <;> rfl

/-- The generic condition nearest to the code (`StatusCode::generic_code`). -/
def condition (amb : S.Ambient) : {shape : Shape S} → Code S shape → Condition
  | _, .typed D v => D.condition amb v
  | _, .empty _ => .unknown
  | _, .narrowed rules payload _ => rules.condition amb payload

/-- The value with its type (`AnyStatus::visit_value`). -/
def held : {shape : Shape S} → Code S shape → Option (Held S)
  | _, .typed D v => some ⟨D.type, v⟩
  | _, .empty _ => none
  | _, .narrowed rules payload _ => some (rules.held payload)

/-- What the code's domain answers when asked about another status
(`AnyStatus::domain_equivalent`). -/
def recognises (amb : S.Ambient) :
    {shape : Shape S} → Code S shape → (depth : Nat) → View S depth → Bool
  | _, .typed D v => D.recognises amb v
  | _, .empty _ => fun _ _ => false
  | _, .narrowed rules payload _ => rules.recognises amb payload

/-! ## The code as others see it -/

/-- What the code shows of itself to others. -/
def face (amb : S.Ambient) (c : Code S shape) : Face S where
  id := c.id
  name := c.name
  success := c.success amb
  condition := c.condition amb
  held := c.held

/-- The code as others see it (`AnyStatus for StatusCode`). -/
def status (amb : S.Ambient) (c : Code S shape) : Status S where
  face := c.face amb
  recognises := c.recognises amb

/-! ## The code as a developer sees it -/

/-- The value as it is shown to a developer (`Domain::fmt_value`). -/
def valueOutline : {shape : Shape S} → Code S shape → Outline
  | _, .typed D v => D.type.format.outline v
  | _, .empty _ => .word "<empty>"
  | _, .narrowed rules payload _ => rules.outline payload

/-- The structure of a code (`Debug for StatusCode`). -/
def outline (c : Code S shape) : Outline :=
  .record "StatusCode" [("domain", .word (Quoted.quote c.name)), ("value", c.valueOutline)]

/-- The domain of a code as it is shown to a developer: the tag of a fixed one; of an
erased one the width and the name (`Debug for Erased`). -/
def domainText : {shape : Shape S} → Code S shape → String
  | .typed D, _ => D.tag
  | .erased w, c => "Erased<" ++ toString w.bytes ++ ">(" ++ c.name ++ ")"

/-! ## Making codes -/

/-- The value of a typed code (`StatusCode::value`). -/
def value {D : Domain S} : Code S (.typed D) → D.Value
  | .typed _ v => v

/-- The code again (`Clone for StatusCode`); the first one stays with its owner. The value
in it is the same, since duplicates of values are exact. -/
def copy : {shape : Shape S} → Code S shape → Code S shape
  | _, .typed D v => .typed D v
  | _, .empty w => .empty w
  | _, .narrowed rules payload stored => .narrowed rules payload stored

/-- A generic condition as a code of the generic domain (`GenericCode::new`). -/
def ofCondition (c : Condition) : Code S (.typed .generic) :=
  .typed .generic c

/-- The default code of a shape (`Default for StatusCode`): of an erased one the empty
code, of a typed one the default value, if its type has one. -/
def default? : (shape : Shape S) → Option (Code S shape)
  | .typed D => D.type.format.default.map (Code.typed D)
  | .erased w => some (.empty w)

/-- The code of a condition is seen as that condition. -/
@[simp] theorem status_ofCondition (amb : S.Ambient) (c : Condition) :
    (ofCondition c : Code S _).status amb = Status.generic c := rfl

@[simp] theorem copy_eq (c : Code S shape) : c.copy = c := by
  cases c <;> rfl

end Code

/-- A code of any shape. -/
structure AnyCode (S : Setting) where
  shape : Shape S
  code : Code S shape

end TaggedStatus
