/-
A build is a draft and, if a failure is wanted, a judgement.

There are a dozen ways to make a failure in a session, and each reaches the check
by a route of its own: from a code or a copy of one, from a value, through a
conversion, over an erased code that is widened, out of another failure. This file
brings all of them to one form. The `draft` of a build is the code that is made
before anything is judged; it does not depend on the outside state. The builds
that make failures then judge their draft, once and as the last thing they do,
under the state of the moment (`run_eq`). The others do not judge at all, and a
failure that one of them gives was in a register already.

So whatever is to be said about the making of failures is said here about one
draft and one judgement, and a new way of making them adds one case to `run_eq`.
-/
import TaggedStatus.Session.Query

set_option autoImplicit false

namespace TaggedStatus.Session

variable {S : Setting}

/-! ## The judgement -/

/-- Judge the code in a slot: make it a failure, or end the program if it is
success. -/
def Slot.judge (amb : S.Ambient) (slot : Slot S) : Outcome (Slot S) :=
  keepFailure (Failure.ofCode amb slot.anyCode.code)

section Judge

variable {amb : S.Ambient} {slot : Slot S}

theorem Slot.judge_of_success (h : slot.anyCode.code.success amb = true) :
    slot.judge amb = ⟨[.violated slot.anyCode.code.violation],
      .error (.aborted slot.anyCode.code.violation)⟩ := by
  rw [Slot.judge, keepFailure, Failure.ofCode_of_success amb h]
  rfl

theorem Slot.judge_of_not_success (h : slot.anyCode.code.success amb = false) :
    slot.judge amb
      = ⟨[], .ok (.failure ⟨slot.anyCode.shape, ⟨slot.anyCode.code, amb, h⟩⟩)⟩ := by
  rw [Slot.judge, keepFailure, Failure.ofCode_of_not_success amb h]
  rfl

end Judge

/-! ## The draft -/

/-- Turn a code into one of the shape that is wanted: the same, or an erased one if
a width is given. -/
def acceptCode (w : Option Width) (c : AnyCode S) : Except Fault (Outcome (Slot S)) := do
  let ⟨_, acc⟩ ← acceptance c.shape w
  return keepCode (Code.accept acc c.code)

/-- What a build makes before anything is judged. -/
def Build.draft (regs : Registers S) : Build S → Except Fault (Outcome (Slot S))
  | .code c => .ok (pure (.code c))
  | .default shape | .failOfDefault shape =>
      match Code.default? shape with
      | none => .error .noDefault
      | some c => .ok (pure (.code ⟨shape, c⟩))
  | .erase source w => do
      let c ← regs.code source
      eraseCode (← readable w) c
  | .widen source E checking | .failOfErased source E checking => do
      let c ← regs.code source
      widenCode (← readable E) checking c
  | .copy source => do return pure (← regs.slot source)
  | .fail source | .failOfCopy source => do return pure (.code (← regs.code source))
  | .failNarrowed source w => do
      let c ← regs.code source
      acceptCode (some (← readable w)) c
  | .failOfValue D v => .ok (pure (.code ⟨.typed D, .typed D v⟩))
  | .failInPlace D _ build a => .ok (pure (.code ⟨.typed D, .typed D (build a)⟩))
  | .failOfSource c w => acceptCode w c
  | .failOfError _ into a w => acceptCode w ⟨into.shape, into.code a⟩
  | .failOfErrorWith _ _ into a b w => acceptCode w ⟨into.shape, into.code a b⟩
  | .failErase source w => do
      let f ← regs.failure source
      eraseCode (← readable w) (Slot.failure f).anyCode
  | .failWiden source E checking => do
      let f ← regs.failure source
      widenCode (← readable E) checking (Slot.failure f).anyCode
  | .unwrap source => do
      let f ← regs.failure source
      return pure (.code (Slot.failure f).anyCode)

/-- Does a build make a failure? Only then is its draft judged. -/
def Build.judges : Build S → Bool
  | .code .. | .default .. | .erase .. | .widen .. | .copy .. | .unwrap .. => false
  | .fail .. | .failOfCopy .. | .failNarrowed .. | .failOfValue .. | .failInPlace ..
  | .failOfDefault .. | .failOfSource .. | .failOfError .. | .failOfErrorWith ..
  | .failErase .. | .failOfErased .. | .failWiden .. => true

/-- What becomes of the draft of a build. -/
def Build.finish (how : Build S) (amb : S.Ambient) (draft : Outcome (Slot S)) :
    Outcome (Slot S) :=
  if how.judges then draft >>= Slot.judge amb else draft

/-! ## Every build is a draft and what becomes of it -/

section Run

variable (amb : S.Ambient) (regs : Registers S)

theorem keepFailure_bind_ofCode {shape : Shape S} (o : Outcome (Code S shape)) :
    keepFailure (o >>= Failure.ofCode amb) = keepCode o >>= Slot.judge amb := by
  rw [keepFailure, keepCode, bind_assoc, bind_assoc]
  rfl

/-- Turning a code into one of the shape that is wanted and judging that. -/
theorem map_judge_acceptCode (c : AnyCode S) (w : Option Width) :
    (acceptCode w c).map (· >>= Slot.judge amb) = (do
      let ⟨_, acc⟩ ← acceptance c.shape w
      return keepFailure (Code.accept acc c.code >>= Failure.ofCode amb)) := by
  rw [acceptCode]
  cases acceptance c.shape w with
  | error fault => rfl
  | ok target => exact congrArg Except.ok (keepFailure_bind_ofCode amb _).symm

theorem failOf_eq {α : Type} (into : IntoCode S α) (a : α) (w : Option Width) :
    failOf amb a w
      = (acceptCode w ⟨into.shape, into.code a⟩).map (· >>= Slot.judge amb) := by
  rw [map_judge_acceptCode]
  rfl

theorem failOfWith_eq {α β : Type} (into : IntoCodeWith S α β) (a : α) (b : β)
    (w : Option Width) :
    failOfWith amb a b w
      = (acceptCode w ⟨into.shape, into.code a b⟩).map (· >>= Slot.judge amb) := by
  rw [map_judge_acceptCode]
  rfl

theorem eraseFailure_eq (w : Width) (f : AnyFailure S) :
    eraseFailure amb w f
      = (eraseCode w (Slot.failure f).anyCode).map (· >>= Slot.judge amb) := by
  obtain ⟨shape, f⟩ := f
  cases shape with
  | erased w' => rfl
  | typed D =>
      rw [eraseFailure, Slot.anyCode, eraseCode]
      cases fitOf D.type w with
      | error fault => rfl
      | ok fit => exact congrArg Except.ok (keepFailure_bind_ofCode amb _)

theorem failOfErasedCode_eq (E : Domain S) (checking : Checking) (c : AnyCode S) :
    failOfErasedCode amb E checking c
      = (widenCode E checking c).map (· >>= Slot.judge amb) := by
  obtain ⟨shape, x⟩ := c
  cases shape with
  | typed D => rfl
  | erased w =>
      rw [failOfErasedCode, widenCode]
      cases fitOf E.type w with
      | error fault => rfl
      | ok fit =>
          cases soundness x E checking with
          | error fault => rfl
          | ok _ =>
              -- Checked or not, the code is widened first and judged as what it then is.
              cases checking with
              | checked => exact congrArg Except.ok (keepFailure_bind_ofCode amb _)
              | unchecked => exact congrArg Except.ok (keepFailure_bind_ofCode amb _)

/-- Widening a failure is making a failure of its code, widened. -/
theorem widenFailure_eq (E : Domain S) (checking : Checking) (f : AnyFailure S) :
    widenFailure amb E checking f
      = (widenCode E checking (Slot.failure f).anyCode).map (· >>= Slot.judge amb) := by
  rw [← failOfErasedCode_eq]
  obtain ⟨shape, f⟩ := f
  cases shape <;> rfl

/-- **One draft, one judgement.** Every build makes its draft; if a failure is
wanted, the draft is judged under the outside state of the moment, and nothing is
done after that. -/
theorem Build.run_eq (how : Build S) :
    how.run amb regs = (how.draft regs).map (how.finish amb) := by
  cases how with
  -- Nothing is judged, and nothing becomes of the draft.
  | code | erase | widen | copy | unwrap => exact (congrFun Except.map_id _).symm
  | default shape =>
      rw [Build.run, Build.draft]
      cases Code.default? shape <;> rfl
  | fail source =>
      rw [Build.run, Build.draft]
      cases regs.code source <;> rfl
  | failOfCopy source =>
      rw [Build.run, Build.draft]
      simp only [Failure.ofCopy, Code.copy_eq]
      cases regs.code source <;> rfl
  | failNarrowed source w =>
      rw [Build.run, Build.draft]
      cases regs.code source with
      | error fault => rfl
      | ok c =>
          cases w with
          | none => rfl
          | some w => exact failOf_eq amb _ c.code (some w)
  | failOfValue | failInPlace => rfl
  | failOfDefault shape =>
      rw [Build.run, Build.draft, Failure.ofDefault?]
      cases Code.default? shape <;> rfl
  | failOfSource c w => exact failOf_eq amb _ c.code w
  | failOfError T into a w => exact failOf_eq amb into a w
  | failOfErrorWith T U into a b w => exact failOfWith_eq amb into a b w
  | failErase source w =>
      rw [Build.run, Build.draft]
      cases regs.failure source with
      | error fault => rfl
      | ok f =>
          cases w with
          | none => rfl
          | some w => exact eraseFailure_eq amb w f
  | failOfErased source E checking =>
      rw [Build.run, Build.draft]
      cases regs.code source with
      | error fault => rfl
      | ok c =>
          cases E with
          | none => rfl
          | some E => exact failOfErasedCode_eq amb E checking c
  | failWiden source E checking =>
      rw [Build.run, Build.draft]
      cases regs.failure source with
      | error fault => rfl
      | ok f =>
          cases E with
          | none => rfl
          | some E => exact widenFailure_eq amb E checking f

end Run

/-! ## Where a failure in a draft comes from

A draft is a code, except that a copy may be a copy of a failure. -/

section Source

variable {regs : Registers S} {f : AnyFailure S}

/-- What a chain of requests for registers and widths came to, if there was no fault:
its first step did, and then the rest. -/
theorem ok_of_bind {α β : Type} {x : Except Fault α} {next : α → Except Fault β} {b : β}
    (h : x >>= next = .ok b) : ∃ a, x = .ok a ∧ next a = .ok b := by
  cases x with
  | error fault => cases h
  | ok a => exact ⟨a, rfl, h⟩

theorem mem_of_slot {source : String} {slot : Slot S} (h : regs.slot source = .ok slot) :
    (source, slot) ∈ regs := by
  unfold Registers.slot at h
  split at h
  case h_1 => cases h
  case h_2 slot' hlookup =>
    cases h
    obtain ⟨before, after, rfl, -⟩ := List.lookup_eq_some_iff.mp hlookup
    exact List.mem_append_right before List.mem_cons_self

/-- An operation that makes a code, if it makes anything. -/
def MakesCode (o : Outcome (Slot S)) : Prop :=
  ∃ (shape : Shape S) (made : Outcome (Code S shape)), o = keepCode made

theorem MakesCode.result_ne {o : Outcome (Slot S)} (h : MakesCode o) :
    o.result ≠ .ok (.failure f) := by
  obtain ⟨shape, ⟨events, reason | c⟩, rfl⟩ := h
  · rintro ⟨⟩
  · rintro ⟨⟩

theorem makesCode_pure (c : AnyCode S) : MakesCode (pure (.code c)) :=
  ⟨c.shape, pure c.code, rfl⟩

theorem makesCode_of_eraseCode {w : Width} {c : AnyCode S} {o : Outcome (Slot S)}
    (h : eraseCode w c = .ok o) : MakesCode o := by
  obtain ⟨shape, c⟩ := c
  cases shape with
  | erased w' => cases h
  | typed D =>
      obtain ⟨fit, -, hrest⟩ := ok_of_bind h
      cases hrest
      exact ⟨_, _, rfl⟩

theorem makesCode_of_widenCode {E : Domain S} {checking : Checking} {c : AnyCode S}
    {o : Outcome (Slot S)} (h : widenCode E checking c = .ok o) : MakesCode o := by
  obtain ⟨shape, x⟩ := c
  cases shape with
  | typed D => cases h
  | erased w =>
      obtain ⟨fit, -, hrest⟩ := ok_of_bind h
      obtain ⟨_, -, hmade⟩ := ok_of_bind hrest
      cases hmade
      exact ⟨_, _, rfl⟩

theorem makesCode_of_acceptCode {w : Option Width} {c : AnyCode S} {o : Outcome (Slot S)}
    (h : acceptCode w c = .ok o) : MakesCode o := by
  obtain ⟨target, -, hrest⟩ := ok_of_bind h
  cases hrest
  exact ⟨_, _, rfl⟩

/-- A draft copies what a register holds, or it makes a code. -/
theorem Build.draft_cases {how : Build S} {o : Outcome (Slot S)} (h : how.draft regs = .ok o) :
    (∃ source slot, how = .copy source ∧ (source, slot) ∈ regs ∧ o = pure slot)
      ∨ MakesCode o := by
  cases how with
  | copy source =>
      obtain ⟨slot, hslot, hpure⟩ := ok_of_bind h
      cases hpure
      exact .inl ⟨source, slot, rfl, mem_of_slot hslot, rfl⟩
  | code c =>
      cases h
      exact .inr (makesCode_pure c)
  | default shape | failOfDefault shape =>
      rw [Build.draft] at h
      cases hdefault : Code.default? shape with
      | none =>
          rw [hdefault] at h
          cases h
      | some c =>
          rw [hdefault] at h
          cases h
          exact .inr (makesCode_pure ⟨shape, c⟩)
  | failOfValue D v | failInPlace D T build a =>
      cases h
      exact .inr (makesCode_pure _)
  | erase source w =>
      obtain ⟨c, -, hrest⟩ := ok_of_bind h
      obtain ⟨w, -, hmade⟩ := ok_of_bind hrest
      exact .inr (makesCode_of_eraseCode hmade)
  | failErase source w =>
      obtain ⟨f, -, hrest⟩ := ok_of_bind h
      obtain ⟨w, -, hmade⟩ := ok_of_bind hrest
      exact .inr (makesCode_of_eraseCode hmade)
  | widen source E checking | failOfErased source E checking =>
      obtain ⟨c, -, hrest⟩ := ok_of_bind h
      obtain ⟨E, -, hmade⟩ := ok_of_bind hrest
      exact .inr (makesCode_of_widenCode hmade)
  | failWiden source E checking =>
      obtain ⟨f, -, hrest⟩ := ok_of_bind h
      obtain ⟨E, -, hmade⟩ := ok_of_bind hrest
      exact .inr (makesCode_of_widenCode hmade)
  | fail source | failOfCopy source =>
      obtain ⟨c, -, hpure⟩ := ok_of_bind h
      cases hpure
      exact .inr (makesCode_pure c)
  | unwrap source =>
      obtain ⟨f, -, hpure⟩ := ok_of_bind h
      cases hpure
      exact .inr (makesCode_pure _)
  | failNarrowed source w =>
      obtain ⟨c, -, hrest⟩ := ok_of_bind h
      obtain ⟨w, -, hmade⟩ := ok_of_bind hrest
      exact .inr (makesCode_of_acceptCode hmade)
  | failOfSource | failOfError | failOfErrorWith => exact .inr (makesCode_of_acceptCode h)

/-- **A draft makes no failure.** If there is one in it, it was in a register. -/
theorem Build.exists_mem_of_draft {how : Build S} {o : Outcome (Slot S)}
    (hdraft : how.draft regs = .ok o) (hresult : o.result = .ok (.failure f)) :
    ∃ source, (source, .failure f) ∈ regs := by
  rcases Build.draft_cases hdraft with ⟨source, slot, -, hmem, rfl⟩ | hcode
  · cases hresult
    exact ⟨source, hmem⟩
  · exact absurd hresult hcode.result_ne

end Source

end TaggedStatus.Session
