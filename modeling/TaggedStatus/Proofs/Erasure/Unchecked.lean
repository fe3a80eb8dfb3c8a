/-
Unchecked widening agrees with checked widening.

The two are written apart. One asserts that the identity is the one asked for and then
reads the bytes; the other looks for a domain, compares the identity, compares the type of
the values, and reads the bytes only then. They need not stop in the same way: where the
checked one is refused the unchecked one fails its assertion, or goes on.

`Code.Widenings` puts the two side by side. There are four ways in which a code may relate
to the target, and in three of them the two agree: there is no domain, or another one, and
both stop; or the value is of the type that is asked for, and both give the same code. In
the fourth the identity is right and the type is not. There the checked widening is refused
and the unchecked one reads the value as something that it is not. This is what the caller
of the unchecked one has promised not to ask for (`Code.KeepsValueOf`), and the only such
case that the assertion does not catch.

Making failures of what was widened adds a judgement after either of them. The judgement
fails no assertion and refuses nothing, so it keeps the agreement (`Agrees.judged`).
-/
import TaggedStatus.Failure.Erasure
import TaggedStatus.Proofs.Erasure.Widening

set_option autoImplicit false

namespace TaggedStatus

variable {S : Setting} {w : Width}

/-! ## Agreement of two operations -/

/-- The code is of no domain or of another one than was asked for. -/
def WidenError.ConcernsDomain : WidenError → Prop
  | .emptyDomain _ | .domainMismatch .. => True
  | .valueTypeMismatch _ => False

namespace Outcome

variable {α : Type}

/-- An assertion failed. -/
def FailsAssertion (o : Outcome α) : Prop :=
  ∃ found expected, o.result = .error (.asserted found expected)

/-- A checked widening was refused. -/
def Refuses (o : Outcome α) (error : WidenError) : Prop :=
  o.result = .error (.refused error)

/-- A checked widening was refused because of the domain. -/
def RefusesDomain (o : Outcome α) : Prop :=
  ∃ error, o.Refuses error ∧ error.ConcernsDomain

/-- An unchecked operation agrees with a checked one: it fails its assertion exactly where
the other one is refused because of the domain, and where the other one is not refused it
ends like that one, with the same result or the same violation. -/
structure Agrees (unchecked checked : Outcome α) : Prop where
  failsAssertion_iff : unchecked.FailsAssertion ↔ checked.RefusesDomain
  result_eq : (∀ error, ¬ checked.Refuses error) → unchecked.result = checked.result

end Outcome

/-! ## The two widenings side by side -/

namespace Code

/-- What the caller of the unchecked widening promises: the code was narrowed from a value
of a domain that keeps values of the type that is going to be read. -/
def KeepsValueOf (x : Code S (.erased w)) (E : Domain S) : Prop :=
  ∃ (D : Domain S) (fit : Fit D.type w) (v : D.Value), x = narrow D fit v ∧ D.type = E.type

theorem keepsValueOf_narrow_iff {D E : Domain S} {fit : Fit D.type w} {v : D.Value} :
    (narrow D fit v).KeepsValueOf E ↔ D.type = E.type := by
  constructor
  · rintro ⟨D', fit', v', hsame, htype⟩
    -- The code may have been narrowed from another domain, but the type is on record.
    have hheld : (narrow D fit v).held = (narrow D' fit' v').held := by rw [hsame]
    rw [held_narrow, held_narrow] at hheld
    have hD : D.type = D'.type := congrArg Held.type (Option.some.inj hheld)
    exact hD.trans htype
  · intro htype
    exact ⟨D, fit, v, rfl, htype⟩

/-- What the unchecked and the checked widening of a code do, in this order. -/
inductive Widenings (x : Code S (.erased w)) (E : Domain S) :
    Outcome (Code S (.typed E)) → Outcome (Code S (.typed E)) → Prop
  /-- There is no domain. -/
  | empty (hid : x.id = none) :
      Widenings x E ⟨[], .error (.asserted none E.id)⟩
        ⟨[], .error (.refused (.emptyDomain E.name))⟩
  /-- There is another domain. -/
  | foreign {found : DomainId} {name : String} (hid : x.id = some found) (hne : found ≠ E.id) :
      Widenings x E ⟨[], .error (.asserted (some found) E.id)⟩
        ⟨[.rejected (.domainMismatch E.id E.name found name)],
          .error (.refused (.domainMismatch E.id E.name found name))⟩
  /-- The identity is the right one and the type is not. -/
  | misread (c : Code S (.typed E)) (hid : x.id = some E.id) (hkeeps : ¬ x.KeepsValueOf E) :
      Widenings x E ⟨[.widening E.name w], .ok c⟩
        ⟨[], .error (.refused (.valueTypeMismatch E.name))⟩
  /-- The identity is the right one and so is the type. -/
  | read (c : Code S (.typed E)) (hid : x.id = some E.id) (hkeeps : x.KeepsValueOf E) :
      Widenings x E ⟨[.widening E.name w], .ok c⟩ ⟨[], .ok c⟩

section Narrow

variable {D E : Domain S} (fit : Fit D.type w) (fit' : Fit E.type w) (v : D.Value)

theorem widen_narrow_of_id_ne (hid : D.id ≠ E.id) :
    (narrow D fit v).widen E fit' = ⟨[], .error (.asserted (some D.id) E.id)⟩ := by
  have hrules : ¬ (Dispatch.of D fit).id = E.id := hid
  rw [narrow, widen, if_neg hrules]
  rfl

/-- Where the identity is the same, the bytes are read, whatever they were stored as. -/
theorem widen_narrow_of_id_eq (hid : D.id = E.id) :
    (narrow D fit v).widen E fit'
      = ⟨[.widening E.name w], .ok (.typed E (fit'.load (fit.store v)))⟩ := by
  have hrules : (Dispatch.of D fit).id = E.id := hid
  rw [narrow, widen, if_pos hrules]
  rfl

end Narrow

/-- There are these four ways, and no other. -/
theorem widenings (x : Code S (.erased w)) (E : Domain S) (fit : Fit E.type w) :
    Widenings x E (x.widen E fit) (x.tryWiden E fit) := by
  rcases x.eq_empty_or_eq_narrow with rfl | ⟨D, fitD, v, rfl⟩
  · exact .empty rfl
  · by_cases hid : D.id = E.id
    · have hx : (narrow D fitD v).id = some E.id := by rw [id_narrow, hid]
      rw [widen_narrow_of_id_eq fitD fit v hid]
      by_cases htype : D.type = E.type
      · rw [tryWiden_narrow_of_type_eq fitD fit v hid htype, Fit.load_store_of_eq htype fitD fit v]
        exact .read _ hx (keepsValueOf_narrow_iff.mpr htype)
      · rw [tryWiden_narrow_of_type_ne fitD fit v hid htype]
        exact .misread _ hx (fun hkeeps => htype (keepsValueOf_narrow_iff.mp hkeeps))
    · rw [widen_narrow_of_id_ne fitD fit v hid, tryWiden_narrow_of_id_ne fitD fit v hid]
      exact .foreign (id_narrow D fitD v) hid

section Widenings

variable {x : Code S (.erased w)} {E : Domain S} {unchecked checked : Outcome (Code S (.typed E))}

theorem Widenings.agrees (h : Widenings x E unchecked checked) : unchecked.Agrees checked := by
  constructor
  case failsAssertion_iff =>
    cases h with
    | empty => exact iff_of_true ⟨_, _, rfl⟩ ⟨_, rfl, trivial⟩
    | foreign => exact iff_of_true ⟨_, _, rfl⟩ ⟨_, rfl, trivial⟩
    | misread c =>
        refine iff_of_false ?_ ?_
        · rintro ⟨found, expected, hasserted⟩
          cases hasserted
        · -- It is refused, but not because of the domain.
          rintro ⟨error, hrefused, hconcerns⟩
          cases hrefused
          exact hconcerns
    | read c =>
        refine iff_of_false ?_ ?_
        · rintro ⟨found, expected, hasserted⟩
          cases hasserted
        · rintro ⟨error, hrefused, -⟩
          cases hrefused
  case result_eq =>
    intro hpasses
    cases h with
    | empty => exact absurd rfl (hpasses _)
    | foreign => exact absurd rfl (hpasses _)
    | misread => exact absurd rfl (hpasses _)
    | read => rfl

/-- The checked widening ends in one of these ways. -/
theorem Widenings.checked_cases (h : Widenings x E unchecked checked) :
    checked.RefusesDomain ∨ checked.Refuses (.valueTypeMismatch E.name)
      ∨ ∃ c, checked.result = .ok c := by
  cases h with
  | empty => exact .inl ⟨_, rfl, trivial⟩
  | foreign => exact .inl ⟨_, rfl, trivial⟩
  | misread => exact .inr (.inl rfl)
  | read c => exact .inr (.inr ⟨c, rfl⟩)

/-- The type is what a checked widening is refused for if the assertion lets the code pass
and the promise is broken. -/
theorem Widenings.refuses_type_iff (h : Widenings x E unchecked checked) :
    checked.Refuses (.valueTypeMismatch E.name) ↔ x.id = some E.id ∧ ¬ x.KeepsValueOf E := by
  cases h with
  | empty hid =>
      refine iff_of_false (by rintro ⟨⟩) ?_
      rintro ⟨hE, -⟩
      rw [hid] at hE
      cases hE
  | foreign hid hne =>
      refine iff_of_false (by rintro ⟨⟩) ?_
      rintro ⟨hE, -⟩
      rw [hid] at hE
      exact hne (Option.some.inj hE)
  | misread c hid hkeeps => exact iff_of_true rfl ⟨hid, hkeeps⟩
  | read c hid hkeeps => exact iff_of_false (by rintro ⟨⟩) (fun hbroken => hbroken.2 hkeeps)

end Widenings

end Code

/-! ## A judgement after either of them -/

section Judged

variable {shape : Shape S} (amb : S.Ambient)

/-- A judgement does not stop for any other reason than a violation. -/
theorem Failure.result_ofCode_ne {c : Code S shape} {reason : Stop}
    (hreason : ∀ violation, reason ≠ .aborted violation) :
    (ofCode amb c).result ≠ .error reason := by
  intro hstops
  have hends := result_ofCode amb c
  rw [hstops] at hends
  split at hends
  case isTrue => exact hreason _ (Except.error.inj hends)
  case isFalse =>
    obtain ⟨h, hends⟩ := hends
    cases hends

namespace Outcome

variable {o unchecked checked : Outcome (Code S shape)}

/-- What stops a chain for another reason than a violation has stopped it before the
judgement. -/
theorem stops_judged_iff {reason : Stop} (hreason : ∀ violation, reason ≠ .aborted violation) :
    (o >>= Failure.ofCode amb).result = .error reason ↔ o.result = .error reason := by
  rw [result_bind]
  cases o.result with
  | error reason' =>
      constructor
      · rintro ⟨⟩
        rfl
      · rintro ⟨⟩
        rfl
  | ok c =>
      refine iff_of_false (Failure.result_ofCode_ne amb hreason) ?_
      rintro ⟨⟩

theorem failsAssertion_judged_iff :
    (o >>= Failure.ofCode amb).FailsAssertion ↔ o.FailsAssertion := by
  refine exists_congr fun found => exists_congr fun expected => ?_
  exact stops_judged_iff amb (fun _ => Stop.noConfusion)

theorem refuses_judged_iff {error : WidenError} :
    (o >>= Failure.ofCode amb).Refuses error ↔ o.Refuses error :=
  stops_judged_iff amb (fun _ => Stop.noConfusion)

/-- **A judgement keeps the agreement.** -/
theorem Agrees.judged (h : unchecked.Agrees checked) :
    (unchecked >>= Failure.ofCode amb).Agrees (checked >>= Failure.ofCode amb) := by
  constructor
  case failsAssertion_iff =>
    rw [failsAssertion_judged_iff, h.failsAssertion_iff]
    unfold RefusesDomain
    simp only [refuses_judged_iff]
  case result_eq =>
    intro hpasses
    have hpassed : ∀ error, ¬ checked.Refuses error :=
      fun error hrefused => hpasses error ((refuses_judged_iff amb).mpr hrefused)
    rw [result_bind, result_bind, h.result_eq hpassed]

end Outcome

end Judged

/-! ## Both together -/

/-- **Unchecked widening agrees with checked widening.** Take any erased code, any target
and any width that its values fit.

The unchecked widening fails its assertion exactly where the checked one is refused
because of the domain; and where the checked one gives a code, it gives the same code. The
one other thing that may happen is that the checked one is refused because of the type, and
that is where the assertion lets a code pass for which the caller has broken the promise.

The same is true of failures, whether they are made of erased codes or widened from
erased failures. Where the checked widening passes, both end the program if the code is
success, with the same violation, and otherwise give the same failure of the code. -/
theorem widening_unchecked_agrees (x : Code S (.erased w)) (E : Domain S) (fit : Fit E.type w) :
    (x.widen E fit).Agrees (x.tryWiden E fit)
    ∧ ((x.tryWiden E fit).RefusesDomain ∨ (x.tryWiden E fit).Refuses (.valueTypeMismatch E.name)
        ∨ ∃ c, (x.tryWiden E fit).result = .ok c)
    ∧ ((x.tryWiden E fit).Refuses (.valueTypeMismatch E.name)
        ↔ x.id = some E.id ∧ ¬ x.KeepsValueOf E)
    ∧ ∀ amb : S.Ambient,
        (Failure.ofErased amb x E fit).Agrees (Failure.tryOfErased amb x E fit)
        ∧ (∀ f : Failure S (.erased w), (f.widen amb E fit).Agrees (f.tryWiden amb E fit))
        ∧ ∀ c, (x.tryWiden E fit).result = .ok c →
            if c.success amb = true then
              (Failure.ofErased amb x E fit).result = .error (.aborted c.violation)
                ∧ (Failure.tryOfErased amb x E fit).result = .error (.aborted c.violation)
            else
              ∃ h, (Failure.ofErased amb x E fit).result = .ok ⟨c, amb, h⟩
                ∧ (Failure.tryOfErased amb x E fit).result = .ok ⟨c, amb, h⟩ := by
  have hends := x.widenings E fit
  refine ⟨hends.agrees, hends.checked_cases, hends.refuses_type_iff, ?_⟩
  intro amb
  have hfailures : (Failure.ofErased amb x E fit).Agrees (Failure.tryOfErased amb x E fit) :=
    hends.agrees.judged amb
  refine ⟨hfailures, fun f => (f.code.widenings E fit).agrees.judged amb, ?_⟩
  intro c hc
  -- The checked failure is the judgement of the code that the checked widening gives.
  have hchecked : (Failure.tryOfErased amb x E fit).result = (Failure.ofCode amb c).result := by
    rw [Failure.tryOfErased, Outcome.result_bind, hc]
    rfl
  have hunchecked : (Failure.ofErased amb x E fit).result = (Failure.ofCode amb c).result := by
    rw [hfailures.result_eq ?_, hchecked]
    intro error hrefused
    rw [Outcome.Refuses, hchecked] at hrefused
    exact Failure.result_ofCode_ne amb (fun _ => Stop.noConfusion) hrefused
  have hjudged := Failure.result_ofCode amb c
  rw [hunchecked, hchecked]
  split
  case isTrue hsuccess =>
    rw [if_pos hsuccess] at hjudged
    exact ⟨hjudged, hjudged⟩
  case isFalse hsuccess =>
    rw [if_neg hsuccess] at hjudged
    obtain ⟨h, hjudged⟩ := hjudged
    exact ⟨h, hjudged, hjudged⟩

/-- A code of `raw` passes for one of its namesake on both ways, and the namesake calls it
success; it does not pass for a code of `http` on either. -/
theorem widening_unchecked_agrees_namesake :
    let amb : Catalog.setting.Ambient := Catalog.Tables.empty
    let fit : Fit (Catalog.type .word32) .w8 := ⟨.uint32, rfl, by decide⟩
    let fitHttp : Fit (Catalog.type .word16) .w8 := ⟨.uint16, rfl, by decide⟩
    let x : Code Catalog.setting (.erased .w8) := .narrow Catalog.raw fit (1 : UInt32)
    let c : Code Catalog.setting (.typed Catalog.namesake) := .typed Catalog.namesake (1 : UInt32)
    (x.tryWiden Catalog.namesake fit).result = .ok c
      ∧ (Failure.ofErased amb x Catalog.namesake fit).result = .error (.aborted c.violation)
      ∧ (Failure.tryOfErased amb x Catalog.namesake fit).result = .error (.aborted c.violation)
      ∧ (x.widen Catalog.http fitHttp).FailsAssertion := by
  intro amb fit fitHttp x c
  have hc : (x.tryWiden Catalog.namesake fit).result = .ok c := rfl
  obtain ⟨-, -, -, hfailures⟩ := widening_unchecked_agrees x Catalog.namesake fit
  have hsuccess : c.success amb = true := rfl
  have hends := (hfailures amb).2.2 c hc
  rw [if_pos hsuccess] at hends
  obtain ⟨hhttp, -⟩ := widening_unchecked_agrees x Catalog.http fitHttp
  exact ⟨hc, hends.1, hends.2, hhttp.failsAssertion_iff.mpr ⟨_, rfl, trivial⟩⟩

end TaggedStatus
