/-
The functions that an erased code carries with it.

A typed code is judged by the rules of the domain in its type. An erased code
has no domain in its type, and its value is bytes; so it carries along a
`Dispatch`, which is what is left of the domain once the type of its values is
forgotten: the identity, the name, the type of the values by name, and each of
the rules made over to take a payload instead of a value.

Every entry of `Dispatch.of` reads the payload first and then asks the domain. So
the entries are right about payloads that were stored from a value of the
domain, and the lemmas here say so, one for each entry; about other payloads
nothing is promised.
-/
import TaggedStatus.Domain.Basic
import TaggedStatus.Value.Payload

set_option autoImplicit false

namespace TaggedStatus

/-- The rules of a domain, made over to take payloads of one width (`ErasedVTable`). -/
structure Dispatch (S : Setting) (w : Width) where
  /-- The identity of the domain. -/
  id : DomainId
  /-- The name of the domain. -/
  name : String
  /-- The type of the values that payloads are stored from. -/
  type : ValueType S
  /-- Is the value in this payload success? -/
  success : S.Ambient → Payload w → Bool
  /-- The generic condition nearest to the value in this payload. -/
  condition : S.Ambient → Payload w → Condition
  /-- Does the value in this payload mean the same as the status seen? -/
  recognises : S.Ambient → Payload w → (depth : Nat) → View S depth → Bool
  /-- The value in this payload, with its type. -/
  held : Payload w → Held S
  /-- The value in this payload, as it is shown to a developer. -/
  outline : Payload w → Outline

namespace Dispatch

variable {S : Setting} {w : Width}

/-- What is left of a domain whose values fit the width (`VTableFor::VTABLE`). -/
def of (D : Domain S) (fit : Fit D.type w) : Dispatch S w where
  id := D.id
  name := D.name
  type := D.type
  success amb payload := D.success amb (fit.load payload)
  condition amb payload := D.condition amb (fit.load payload)
  recognises amb payload := D.recognises amb (fit.load payload)
  held payload := ⟨D.type, fit.load payload⟩
  outline payload := D.type.format.outline (fit.load payload)

/-! ## What the entries say about a stored value -/

section Stored

variable (D : Domain S) (fit : Fit D.type w) (v : D.Value)

@[simp] theorem id_of : (of D fit).id = D.id := rfl

@[simp] theorem name_of : (of D fit).name = D.name := rfl

@[simp] theorem type_of : (of D fit).type = D.type := rfl

@[simp] theorem success_of_store (amb : S.Ambient) :
    (of D fit).success amb (fit.store v) = D.success amb v :=
  congrArg (D.success amb) (fit.load_store v)

@[simp] theorem condition_of_store (amb : S.Ambient) :
    (of D fit).condition amb (fit.store v) = D.condition amb v :=
  congrArg (D.condition amb) (fit.load_store v)

@[simp] theorem recognises_of_store (amb : S.Ambient) :
    (of D fit).recognises amb (fit.store v) = D.recognises amb v :=
  congrArg (D.recognises amb) (fit.load_store v)

@[simp] theorem held_of_store : (of D fit).held (fit.store v) = ⟨D.type, v⟩ :=
  congrArg (Held.mk D.type) (fit.load_store v)

@[simp] theorem outline_of_store :
    (of D fit).outline (fit.store v) = D.type.format.outline v :=
  congrArg D.type.format.outline (fit.load_store v)

end Stored

end Dispatch

end TaggedStatus
