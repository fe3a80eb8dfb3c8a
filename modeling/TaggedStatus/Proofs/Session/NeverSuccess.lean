/-
No failure is success, over whole runs.

A failure bears the proof that its code was not success in the outside state of its
judgement. What remains to be shown about a run is which outside state that was:
not one of some earlier time, before a domain changed its mind, but the one of the
moment in which the failure was built. That is not plain for the failures that are
made from other failures or from erased codes. There the code has been judged
before, perhaps under other rules and perhaps by another domain, and that
judgement must not be what the new failure rests on.

So the invariant that a run keeps is one of origin: every failure that a session
holds was built in the course of the run by a build that judged it, in the state
that the session had then (`BuiltIn`). Copies and what is moved between registers
keep the origin they have.
-/
import TaggedStatus.Catalog.Domains
import TaggedStatus.Proofs.Session.Judgement
import TaggedStatus.Session.Run

set_option autoImplicit false

namespace TaggedStatus.Session

variable {S : Setting} {depth : Nat} {m m₀ : State S} {f : AnyFailure S}

/-! ## Where a failure was built -/

/-- The failure is in some register. -/
def State.Holds (m : State S) (f : AnyFailure S) : Prop :=
  ∃ name, (name, .failure f) ∈ m.registers

/-- The build makes the failure in this state: the draft is its code, and the
judgement is made under the outside state of this moment. -/
structure Build.Makes (how : Build S) (m : State S) (f : AnyFailure S) : Prop where
  judges : how.judges = true
  drafts : ∃ (events : List Event) (slot : Slot S),
    how.draft m.registers = .ok ⟨events, .ok slot⟩ ∧ slot.anyCode = (Slot.failure f).anyCode
  judgedIn : f.failure.judgedIn = m.ambient

theorem Build.Makes.success_eq_false {how : Build S} (h : how.Makes m f) :
    f.failure.code.success m.ambient = false := by
  rw [← h.judgedIn, f.failure.not_success]

/-- In a run of these requests from `m₀`, the failure is built when the session is
in state `m`. The cases are those of `State.run`. -/
inductive BuiltIn (depth : Nat) (f : AnyFailure S) (m : State S) :
    State S → List (Request S) → Prop
  /-- By the first request. -/
  | now {into : String} {how : Build S} {rest : List (Request S)} (makes : how.Makes m f) :
      BuiltIn depth f m m (.build into how :: rest)
  /-- After the first request, if that does not end the program. -/
  | later {m₀ : State S} {request : Request S} {rest : List (Request S)}
      (goes_on : (m₀.step depth request).2.aborts = false)
      (built : BuiltIn depth f m (m₀.step depth request).1 rest) :
      BuiltIn depth f m m₀ (request :: rest)

theorem BuiltIn.makes {requests : List (Request S)} (h : BuiltIn depth f m m₀ requests) :
    ∃ how : Build S, how.Makes m f := by
  induction h with
  | now makes => exact ⟨_, makes⟩
  | later _ _ ih => exact ih

/-! ## One build, one step, a run -/

/-- A failure that a build gives is made by it, or was in a register. -/
theorem Build.makes_of_run {how : Build S} {o : Outcome (Slot S)}
    (hrun : how.run m.ambient m.registers = .ok o) (hresult : o.result = .ok (.failure f)) :
    m.Holds f ∨ how.Makes m f := by
  rw [Build.run_eq] at hrun
  cases hdraft : how.draft m.registers with
  | error fault =>
      rw [hdraft] at hrun
      cases hrun
  | ok draft =>
      rw [hdraft] at hrun
      cases hrun
      unfold Build.finish at hresult
      split at hresult
      case isFalse =>
        -- Nothing was judged, so this is a copy.
        exact .inl (Build.exists_mem_of_draft hdraft hresult)
      case isTrue hjudges =>
        -- There is a failure only if the draft came about and passed the judgement.
        obtain ⟨events, reason | slot⟩ := draft
        · cases hresult
        · rw [Outcome.bind_ok] at hresult
          by_cases hsuccess : slot.anyCode.code.success m.ambient = true
          · rw [Slot.judge_of_success hsuccess] at hresult
            cases hresult
          · rw [Bool.not_eq_true] at hsuccess
            rw [Slot.judge_of_not_success hsuccess] at hresult
            cases hresult
            exact .inr ⟨hjudges, ⟨events, slot, hdraft, rfl⟩, rfl⟩

/-- A failure that is there after a step was there before or is made by the step. -/
theorem holds_step {request : Request S} (h : (m.step depth request).1.Holds f) :
    m.Holds f ∨ ∃ into how, request = .build into how ∧ how.Makes m f := by
  cases request with
  | adjust change => exact .inl h
  | query what => exact .inl h
  | unreadable => exact .inl h
  | build into how =>
      rw [State.step] at h
      cases hrun : how.run m.ambient m.registers with
      | error fault =>
          rw [hrun] at h
          exact .inl h
      | ok o =>
          rw [hrun] at h
          simp only [State.keep] at h
          cases hresult : o.result with
          | error reason =>
              rw [hresult] at h
              exact .inl h
          | ok slot =>
              rw [hresult] at h
              -- It is the one that has just been kept, or an older one.
              obtain ⟨name, hmem⟩ := h
              rcases List.mem_cons.mp hmem with heq | hold
              · cases heq
                exact (Build.makes_of_run hrun hresult).imp_right
                  fun hmakes => ⟨into, how, rfl, hmakes⟩
              · exact .inl ⟨name, hold⟩

/-- A failure that is there after a run was there before or is built in the run. -/
theorem holds_run {requests : List (Request S)} (h : (m₀.run depth requests).1.Holds f) :
    m₀.Holds f ∨ ∃ m, BuiltIn depth f m m₀ requests := by
  induction requests generalizing m₀ with
  | nil => exact .inl h
  | cons request rest ih =>
      -- What the first step leaves is either where the run ends or where the rest of
      -- it begins; in both cases it is traced back over that step.
      have hstep : (m₀.step depth request).1.Holds f →
          m₀.Holds f ∨ ∃ m, BuiltIn depth f m m₀ (request :: rest) := by
        intro hafter
        rcases holds_step hafter with hbefore | ⟨into, how, rfl, hmakes⟩
        · exact .inl hbefore
        · exact .inr ⟨m₀, .now hmakes⟩
      rw [State.run_cons] at h
      split at h
      case isTrue => exact hstep h
      case isFalse hgoes =>
        rw [Bool.not_eq_true] at hgoes
        rcases ih h with hafter | ⟨m, hbuilt⟩
        · exact hstep hafter
        · exact .inr ⟨m, .later hgoes hbuilt⟩

/-! ## No failure is success -/

/-- A build that judges ends the program if its draft is success at this moment, with
the report on that code, and the registers stay as they are. -/
theorem step_build_of_success {into : String} {how : Build S} {events : List Event}
    {slot : Slot S} (hjudges : how.judges = true)
    (hdraft : how.draft m.registers = .ok ⟨events, .ok slot⟩)
    (hsuccess : slot.anyCode.code.success m.ambient = true) :
    m.step depth (.build into how)
      = (m, ⟨.error (.stopped (.aborted slot.anyCode.code.violation)),
          events ++ [.violated slot.anyCode.code.violation]⟩) := by
  rw [State.step, Build.run_eq, hdraft, Except.map, Build.finish, if_pos hjudges,
    Outcome.bind_ok, Slot.judge_of_success hsuccess]
  rfl

/-- A build that judges keeps the failure of its draft if that is not success at
this moment. -/
theorem step_build_of_not_success {into : String} {how : Build S} {events : List Event}
    {slot : Slot S} (hjudges : how.judges = true)
    (hdraft : how.draft m.registers = .ok ⟨events, .ok slot⟩)
    (hsuccess : slot.anyCode.code.success m.ambient = false) :
    ∃ f : AnyFailure S, how.Makes m f ∧
      (m.step depth (.build into how)).1
        = { m with registers := (into, .failure f) :: m.registers } := by
  refine ⟨⟨_, ⟨slot.anyCode.code, m.ambient, hsuccess⟩⟩,
    ⟨hjudges, ⟨events, slot, hdraft, rfl⟩, rfl⟩, ?_⟩
  rw [State.step, Build.run_eq, hdraft, Except.map, Build.finish, if_pos hjudges,
    Outcome.bind_ok, Slot.judge_of_not_success hsuccess]
  rfl

/-- **No failure is success.** Take any run from a session without registers.

Every failure that the session holds in the end was built during the run, by a
build that judged its code in the state of that moment; copying it or moving it
has not changed that. It was not success then, and if the verdict on its code is
the same now, it is not success now, and is a failure unless it is empty.

And wherever a session may be, a build that makes a failure goes by the rules in
force there, however its code was judged before: if they call the draft success,
the program ends; otherwise the failure is kept, and is not success under them. -/
theorem never_success {depth : Nat} {amb : S.Ambient} {requests : List (Request S)}
    {final : State S} {entries : List (Entry S)}
    (hrun : (State.mk amb []).run depth requests = (final, entries)) :
    (∀ f : AnyFailure S, final.Holds f →
      ∃ m : State S, BuiltIn depth f m ⟨amb, []⟩ requests
        ∧ f.failure.judgedIn = m.ambient
        ∧ f.failure.code.success m.ambient = false
        ∧ (f.failure.code.success final.ambient = f.failure.code.success m.ambient →
            f.failure.code.success final.ambient = false
              ∧ f.failure.code.failure final.ambient = !f.failure.code.isEmpty))
    ∧ ∀ (m : State S) (into : String) (how : Build S) (events : List Event) (slot : Slot S),
        how.judges = true → how.draft m.registers = .ok ⟨events, .ok slot⟩ →
        if slot.anyCode.code.success m.ambient = true then
          m.step depth (.build into how)
            = (m, ⟨.error (.stopped (.aborted slot.anyCode.code.violation)),
                events ++ [.violated slot.anyCode.code.violation]⟩)
        else
          ∃ f : AnyFailure S, how.Makes m f ∧ f.failure.code.success m.ambient = false
            ∧ (m.step depth (.build into how)).1
              = { m with registers := (into, .failure f) :: m.registers } := by
  constructor
  · intro f hholds
    have hfinal : ((State.mk amb []).run depth requests).1 = final := congrArg Prod.fst hrun
    rw [← hfinal] at hholds
    rcases holds_run hholds with ⟨name, hmem⟩ | ⟨m, hbuilt⟩
    · cases hmem
    · obtain ⟨how, hmakes⟩ := hbuilt.makes
      refine ⟨m, hbuilt, hmakes.judgedIn, hmakes.success_eq_false, ?_⟩
      intro hsame
      rw [← hmakes.judgedIn] at hsame
      have hsuccess : f.failure.code.success final.ambient = false :=
        f.failure.success_eq_false hsame
      exact ⟨hsuccess, Code.failure_of_not_success hsuccess⟩
  · intro m into how events slot hjudges hdraft
    split
    case isTrue hsuccess => exact step_build_of_success hjudges hdraft hsuccess
    case isFalse hsuccess =>
      rw [Bool.not_eq_true] at hsuccess
      obtain ⟨f, hmakes, hstep⟩ := step_build_of_not_success hjudges hdraft hsuccess
      exact ⟨f, hmakes, hmakes.success_eq_false, hstep⟩

/-! A code of `raw` is narrowed and becomes a failure of its namesake, which has other
rules. A value of the first table is kept, and then the table changes its mind. -/

section Namesake

open Catalog

/-- The run: what is built, and then the change of the table. -/
def namesakeRequests : List (Request setting) := [
  .build "code" (.code ⟨.typed raw, .typed raw (2 : UInt32)⟩),
  .build "erased" (.erase "code" (some .w8)),
  .build "failure" (.failOfErased "erased" (some namesake) .checked),
  .build "row" (.code ⟨.typed t0, .typed t0 (5 : Int64)⟩),
  .adjust fun tables => { tables with t0 := { tables.t0 with success := [5] } }]

/-- The failure that the run leaves. -/
def namesakeFailure : AnyFailure setting where
  shape := .typed namesake
  failure := { code := .typed namesake (2 : UInt32), judgedIn := .empty, not_success := rfl }

/-- The failure is not success when the run is over, and by then a failure of the
value that is kept ends the program. -/
theorem never_success_namesake :
    ∃ (final : State setting) (entries : List (Entry setting)),
      (State.mk Tables.empty []).run Catalog.depth namesakeRequests = (final, entries)
        ∧ final.Holds namesakeFailure
        ∧ namesakeFailure.failure.code.success final.ambient = false
        ∧ namesakeFailure.failure.code.failure final.ambient = true
        ∧ (final.step Catalog.depth (.build "failed" (.fail "row"))).2.aborts = true := by
  obtain ⟨final, entries, hrun⟩ :
      ∃ (final : State setting) (entries : List (Entry setting)),
        (State.mk Tables.empty []).run Catalog.depth namesakeRequests = (final, entries) :=
    ⟨_, _, rfl⟩
  have hfinal : final = ((State.mk Tables.empty []).run Catalog.depth namesakeRequests).1 :=
    (congrArg Prod.fst hrun).symm
  have hholds : final.Holds namesakeFailure := by
    rw [hfinal]
    exact ⟨"failure", .tail _ (.head _)⟩
  obtain ⟨m, -, -, -, hnow⟩ := (never_success hrun).1 namesakeFailure hholds
  obtain ⟨hsuccess, hfailure⟩ := hnow rfl
  refine ⟨final, entries, hrun, hholds, hsuccess, hfailure, ?_⟩
  have hstep := (never_success hrun).2 final "failed" (.fail "row") []
    (.code ⟨.typed t0, .typed t0 (5 : Int64)⟩) rfl (by rw [hfinal]; rfl)
  rw [if_pos (by rw [hfinal]; rfl)] at hstep
  rw [hstep]
  rfl

end Namesake

end TaggedStatus.Session
