/-
Narrowing and widening of failures.

Each of these converts the code and judges the result again, under the state of
the moment. Narrowing cannot be refused, and widening is refused or fails its
assertion as it does for plain codes; but where another domain with the same
identity, or a domain that has changed its mind, now calls the value success,
the program ends.
-/
import TaggedStatus.Failure.Basic

set_option autoImplicit false

namespace TaggedStatus.Failure

variable {S : Setting} {w : Width} (amb : S.Ambient)

/-- Narrow a typed failure (`FailureStatus::erase`). -/
def erase {D : Domain S} (f : Failure S (.typed D)) (fit : Fit D.type w) :
    Outcome (Failure S (.erased w)) := do
  let c ← f.code.erase fit
  ofCode amb c

/-- Make an erased code a failure of a domain, trusting the caller that the code
came from it (`FailureStatus::from_erased`). -/
def ofErased (x : Code S (.erased w)) (E : Domain S) (fit : Fit E.type w) :
    Outcome (Failure S (.typed E)) := do
  let c ← x.widen E fit
  ofCode amb c

/-- Make an erased code a failure of a domain after checking that it came from
it (`FailureStatus::try_from_erased`). -/
def tryOfErased (x : Code S (.erased w)) (E : Domain S) (fit : Fit E.type w) :
    Outcome (Failure S (.typed E)) := do
  let c ← x.tryWiden E fit
  ofCode amb c

/-- Widen an erased failure, trusting the caller (`FailureStatus::widen`). -/
def widen (f : Failure S (.erased w)) (E : Domain S) (fit : Fit E.type w) :
    Outcome (Failure S (.typed E)) :=
  ofErased amb f.code E fit

/-- Widen an erased failure after checking the domain and the type
(`FailureStatus::try_widen`). -/
def tryWiden (f : Failure S (.erased w)) (E : Domain S) (fit : Fit E.type w) :
    Outcome (Failure S (.typed E)) :=
  tryOfErased amb f.code E fit

end TaggedStatus.Failure
