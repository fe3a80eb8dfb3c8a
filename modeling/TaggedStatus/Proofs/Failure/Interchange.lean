/-
A failure may stand in for its code.

A failure shows what its code shows, with one exception: whether it is success. The
code asks its domain, and the failure says no without asking anyone. The rule of
another domain may look at just that, and so the answer of a comparison could depend
on whether a program hands over the failure or the code.

It does not for as long as the judgement stands. A failure was made under some
outside state in which its code was not success; while the verdict is the same as
then, the two answers are the same (`Failure.status_eq_iff`), and whoever looks at
the failure sees the code. It is the only condition there is: once the domain calls
the code success, the two can be told apart.

The comparisons that a program writes do not depend on it at all, because there the
code is taken out of a failure first.
-/
import TaggedStatus.Proofs.Equivalence.Symmetry

set_option autoImplicit false

namespace TaggedStatus

variable {S : Setting} {shape : Shape S}

namespace Failure

variable {f : Failure S shape} {amb : S.Ambient}

/-- Others see a failure as its code exactly while its domain does not call the code
success. -/
theorem status_eq_iff : f.status amb = f.code.status amb ↔ f.code.success amb = false := by
  constructor
  · intro h
    have hsuccess : false = f.code.success amb := congrArg (fun x => x.face.success) h
    exact hsuccess.symm
  · intro h
    rw [status, Code.status, Code.face, h]

/-- **A failure may stand in for its code.** While the verdict on the code is what it
was when the failure was made, nobody can tell the two apart, foreign rules included.
And whatever a failure is compared with, and on whichever side, the comparison is that
of the codes. -/
theorem interchangeable (f : Failure S shape) (amb : S.Ambient) :
    (f.code.success amb = f.code.success f.judgedIn →
      Status.Interchangeable (f.status amb) (f.code.status amb))
    ∧ ∀ (depth : Nat) (x : Operand S),
        let ofCodes := (Operand.code f.code).equals amb depth (.code x.anyCode.code)
        (Operand.failure f).equals amb depth x = ofCodes
          ∧ x.equals amb depth (.failure f) = ofCodes
          ∧ (Operand.code x.anyCode.code).equals amb depth (.code f.code) = ofCodes := by
  constructor
  · intro hsame
    -- The statuses are equal, rules included, so there is nothing left to tell apart.
    have hstatus : f.status amb = f.code.status amb :=
      status_eq_iff.mpr (f.success_eq_false hsame)
    exact .of_eq hstatus
  · intro depth x ofCodes
    -- Both sides come down to the equivalence of the same two codes.
    have hleft : (Operand.failure f).equals amb depth x = ofCodes :=
      Operand.equals_eq_equivalent amb depth (.failure f) x
    refine ⟨hleft, ?_, Operand.equals_comm amb depth _ _⟩
    rw [Operand.equals_comm, hleft]

/-- A row of the second table recognises whatever does not count as success. It
recognises a failure of the first table as it recognises the code of it. -/
theorem interchangeable_watched :
    let watching : Catalog.Table :=
      { Catalog.Table.empty with
        rules := [(3, ⟨none, none, some false, none, none, none, none, none⟩)] }
    let amb : Catalog.Tables := ⟨.empty, watching⟩
    let c : Code Catalog.setting (.erased .w8) :=
      .narrow Catalog.t0 ⟨.int64, rfl, by decide⟩ (5 : Int64)
    let f : Failure Catalog.setting (.erased .w8) := ⟨c, .empty, rfl⟩
    let watcher : Status Catalog.setting := (Code.typed Catalog.t1 (3 : Int64)).status amb
    watcher.equivalent Catalog.depth (f.status amb) = true
      ∧ watcher.equivalent Catalog.depth (f.code.status amb) = true := by
  intro watching amb c f watcher
  have hcode : watcher.equivalent Catalog.depth (f.code.status amb) = true := rfl
  have hsame := (interchangeable f amb).1 rfl
  refine ⟨?_, hcode⟩
  rw [hsame.equivalent_right, hcode]

end Failure

end TaggedStatus
