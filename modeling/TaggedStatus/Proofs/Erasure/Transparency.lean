/-
Narrowing cannot be observed.

A program learns about a code by asking it questions, by comparing it with other
codes, and by printing it. `Alike` says that two codes cannot be told apart in any
of these ways. Comparing is the way that needs an argument: the answer may come
from the rule of a domain that nobody here knows, and such a rule may look at
everything the code shows and ask it about third statuses in turn.

What makes the argument short is that a rule sees a view and nothing else, and
that the view of a code is made from its `Status` alone. So it is enough that the
two statuses are equal, rules of the code's own domain included: then the views
are equal at every depth, and no rule, of whatever kind, can answer differently.
-/
import TaggedStatus.Code.Erasure

set_option autoImplicit false

namespace TaggedStatus.Code

variable {S : Setting} {shape shape' : Shape S}

/-- Two codes, of whatever shapes, that a program cannot tell apart while the
outside state is `amb`. Others cannot tell their statuses apart, where the other
side of a comparison is any status: of a typed or an erased code, of an empty one
or of a failure, with whatever rule. And a developer is shown the same. -/
structure Alike (amb : S.Ambient) (a : Code S shape) (b : Code S shape') : Prop
    extends Status.Interchangeable (a.status amb) (b.status amb) where
  failure : a.failure amb = b.failure amb
  isEmpty : a.isEmpty = b.isEmpty
  flat : a.outline.flat = b.outline.flat
  tall : a.outline.tall = b.outline.tall

/-- Codes are alike if others see them alike and developers do. -/
theorem Alike.of_status_eq {amb : S.Ambient} {a : Code S shape} {b : Code S shape'}
    (hstatus : a.status amb = b.status amb) (houtline : a.outline = b.outline) :
    Alike amb a b := by
  have hid : a.id = b.id := congrArg (fun x => x.face.id) hstatus
  have hsuccess : a.success amb = b.success amb := congrArg (fun x => x.face.success) hstatus
  constructor
  case toInterchangeable => exact .of_eq hstatus
  case failure => rw [Code.failure, Code.failure, hid, hsuccess]
  case isEmpty => rw [Code.isEmpty, Code.isEmpty, hid]
  case flat => rw [houtline]
  case tall => rw [houtline]

/-- **Narrowing cannot be observed.** Narrowing a code of any domain to any width
that its values fit gives a code that is like the typed one and, whatever other
width is chosen, like the code narrowed to that. -/
theorem erase_alike (amb : S.Ambient) (D : Domain S) (v : D.Value) {w : Width}
    (fit : Fit D.type w) :
    ∃ x : Code S (.erased w), ((Code.typed D v).erase fit).result = .ok x
      ∧ Alike amb x (.typed D v)
      ∧ ∀ (w' : Width) (fit' : Fit D.type w'), ∃ x' : Code S (.erased w'),
          ((Code.typed D v).erase fit').result = .ok x' ∧ Alike amb x x' := by
  refine ⟨narrow D fit v, rfl, ?_, ?_⟩
  · exact .of_status_eq (status_narrow D fit v amb) (outline_narrow D fit v)
  · intro w' fit'
    refine ⟨narrow D fit' v, rfl, .of_status_eq ?_ ?_⟩
    · rw [status_narrow, status_narrow]
    · rw [outline_narrow, outline_narrow]

end TaggedStatus.Code
