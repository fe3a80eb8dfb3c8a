/-
What a build converts.

Before anything is judged, a build may change how a code keeps its value: it narrows a
typed code, or it widens an erased one, checked or not. At most one such `Conversion`
happens in a build, and which one can be said from the request and the registers alone,
before anything runs: there is a code to start from (`Build.source?`), something it is
wanted as (`Build.goal?`), and either the one can become the other or the request is at
fault (`convert?`).

The draft of a build is its conversion and nothing else (`Build.carries_draft`). Where
there is none, the draft is something that is there already or is given, or there is no
draft because the request is at fault; such a fault is found by looking things up, and no
operation has run by then (`LooksUp`).
-/
import TaggedStatus.Proofs.Session.Judgement

set_option autoImplicit false

namespace TaggedStatus.Session

variable {S : Setting}

/-! ## Conversions -/

/-- A change in how a code keeps its value. -/
inductive Conversion (S : Setting) where
  /-- A typed code is narrowed. -/
  | narrow (D : Domain S) (w : Width) (c : Code S (.typed D)) (fit : Fit D.type w)
  /-- An erased code is widened unchecked. -/
  | widen (w : Width) (x : Code S (.erased w)) (E : Domain S) (fit : Fit E.type w)
  /-- An erased code is widened after checking. -/
  | tryWiden (w : Width) (x : Code S (.erased w)) (E : Domain S) (fit : Fit E.type w)

/-- Carry out a conversion. -/
def Conversion.perform : Conversion S → Outcome (Slot S)
  | .narrow _ _ c fit => keepCode (c.erase fit)
  | .widen _ x E fit => keepCode (x.widen E fit)
  | .tryWiden _ x E fit => keepCode (x.tryWiden E fit)

/-- What a code is wanted as. -/
inductive Goal (S : Setting) where
  /-- Erased, of this width. -/
  | width (w : Width)
  /-- Typed, of this domain. -/
  | domain (E : Domain S) (checking : Checking)

/-- The conversion of a code into what it is wanted as, if there is one: typed codes can be
narrowed and erased ones widened, to what the values fit, and the unchecked widening must
not misread the value. -/
def convert? : AnyCode S → Goal S → Option (Conversion S)
  | ⟨.typed D, c⟩, .width w => (Fit.find? D.type w).map (.narrow D w c)
  | ⟨.erased w, x⟩, .domain E .checked => (Fit.find? E.type w).map (.tryWiden w x E)
  | ⟨.erased w, x⟩, .domain E .unchecked =>
      if x.widensSafely E then (Fit.find? E.type w).map (.widen w x E) else none
  | ⟨.typed _, _⟩, .domain _ _ => none
  | ⟨.erased _, _⟩, .width _ => none

namespace Build

/-- The code that a build starts from, if it is one that may convert a code. -/
def source? (regs : Registers S) : Build S → Option (AnyCode S)
  | .erase source _ | .failNarrowed source _ | .widen source _ _ | .failOfErased source _ _ =>
      (regs.code source).toOption
  | .failErase source _ | .failWiden source _ _ =>
      (regs.failure source).toOption.map fun f => (Slot.failure f).anyCode
  | .failOfSource c _ => some c
  | .failOfError _ into a _ => some ⟨into.shape, into.code a⟩
  | .failOfErrorWith _ _ into a b _ => some ⟨into.shape, into.code a b⟩
  | .code .. | .default .. | .copy .. | .fail .. | .failOfCopy .. | .failOfValue ..
  | .failInPlace .. | .failOfDefault .. | .unwrap .. => none

/-- What the build wants the code as, if it does not want it as it is. -/
def goal? : Build S → Option (Goal S)
  | .erase _ w | .failNarrowed _ w | .failErase _ w | .failOfSource _ w | .failOfError _ _ _ w
  | .failOfErrorWith _ _ _ _ _ w => w.map .width
  | .widen _ E checking | .failOfErased _ E checking | .failWiden _ E checking =>
      E.map (.domain · checking)
  | .code .. | .default .. | .copy .. | .fail .. | .failOfCopy .. | .failOfValue ..
  | .failInPlace .. | .failOfDefault .. | .unwrap .. => none

/-- The conversion that a build carries out, if it does. -/
def conversion? (regs : Registers S) (how : Build S) : Option (Conversion S) :=
  (how.source? regs).bind fun c => how.goal?.bind (convert? c)

end Build

/-! ## Looking things up -/

section LooksUp

variable {α β : Type}

/-- Things are looked up and no operation is run: whatever fault is found, it is not that
an operation stopped. -/
def LooksUp (x : Except Fault α) : Prop :=
  ∀ reason, x ≠ .error (.stopped reason)

theorem looksUp_ok (a : α) : LooksUp (.ok a : Except Fault α) := by
  rintro reason ⟨⟩

theorem LooksUp.bind {x : Except Fault α} {next : α → Except Fault β} (hx : LooksUp x)
    (hnext : ∀ a, LooksUp (next a)) : LooksUp (x >>= next) := by
  cases x with
  | error fault =>
      intro reason hstopped
      cases hstopped
      exact hx reason rfl
  | ok a => exact hnext a

theorem LooksUp.mapM {f : α → Except Fault β} (hf : ∀ a, LooksUp (f a)) (as : List α) :
    LooksUp (as.mapM f) := by
  induction as with
  | nil => exact looksUp_ok []
  | cons a as ih =>
      rw [List.mapM_cons]
      exact (hf a).bind fun b => ih.bind fun bs => looksUp_ok (b :: bs)

theorem looksUp_readable (x : Option α) : LooksUp (readable x) := by
  cases x <;> rintro reason ⟨⟩

variable (regs : Registers S) (name : String)

theorem looksUp_slot : LooksUp (regs.slot name) := by
  unfold Registers.slot
  cases regs.lookup name <;> rintro reason ⟨⟩

theorem looksUp_code : LooksUp (regs.code name) := by
  unfold Registers.code
  have hslot := looksUp_slot regs name
  rcases hfound : regs.slot name with fault | (c | f)
  · rintro reason ⟨⟩
    exact hslot reason hfound
  · exact looksUp_ok c
  · rintro reason ⟨⟩

theorem looksUp_failure : LooksUp (regs.failure name) := by
  unfold Registers.failure
  have hslot := looksUp_slot regs name
  rcases hfound : regs.slot name with fault | (c | f)
  · rintro reason ⟨⟩
    exact hslot reason hfound
  · rintro reason ⟨⟩
  · exact looksUp_ok f

/-- Queries look things up. -/
theorem looksUp_query (amb : S.Ambient) (depth : Nat) (what : Query) :
    LooksUp (what.run amb depth regs) := by
  cases what with
  | value source => exact (looksUp_code regs source).bind fun c => looksUp_ok _
  | inspect source => exact (looksUp_slot regs source).bind fun slot => looksUp_ok _
  | compare a b =>
      refine (looksUp_slot regs a).bind fun x => (looksUp_readable b).bind fun b => ?_
      exact (looksUp_slot regs b).bind fun y => looksUp_ok _
  | compareCondition a c =>
      exact (looksUp_slot regs a).bind fun x => (looksUp_readable c).bind fun c => looksUp_ok _
  | matrix names =>
      refine (LooksUp.mapM (fun name => ?_) names).bind fun slots => looksUp_ok _
      exact (looksUp_readable name).bind fun name => looksUp_slot regs name

end LooksUp

/-! ## The draft of a build is its conversion -/

/-- What comes of a build, before it is judged, if this is what it converts. -/
inductive Carries : Option (Conversion S) → Except Fault (Outcome (Slot S)) → Prop
  /-- The conversion. -/
  | converted (conversion : Conversion S) : Carries (some conversion) (.ok conversion.perform)
  /-- Something that is there already. -/
  | kept (slot : Slot S) : Carries none (.ok (pure slot))
  /-- The request is at fault. -/
  | faulty {fault : Fault} (hfault : ∀ reason, fault ≠ .stopped reason) :
      Carries none (.error fault)

/-- Something is looked up first, and the conversion depends on what is found. -/
theorem LooksUp.carries {α : Type} {x : Except Fault α} {next : α → Except Fault (Outcome (Slot S))}
    {conversion? : α → Option (Conversion S)} (hx : LooksUp x)
    (hnext : ∀ a, Carries (conversion? a) (next a)) :
    Carries (x.toOption.bind conversion?) (x >>= next) := by
  cases x with
  | error fault =>
      refine .faulty ?_
      rintro reason rfl
      exact hx reason rfl
  | ok a => exact hnext a

/-- Something is looked up and taken as it is. -/
theorem LooksUp.carries_pure {α : Type} {x : Except Fault α} (hx : LooksUp x) (slot : α → Slot S) :
    Carries none (do return pure (slot (← x)) : Except Fault (Outcome (Slot S))) := by
  have hkept := hx.carries fun a => Carries.kept (slot a)
  rw [Option.bind_fun_none] at hkept
  exact hkept

theorem carries_eraseCode (w : Width) (c : AnyCode S) :
    Carries (convert? c (.width w)) (eraseCode w c) := by
  obtain ⟨shape, c⟩ := c
  cases shape with
  | erased w' => exact .faulty fun _ => Fault.noConfusion
  | typed D =>
      rw [convert?, eraseCode, fitOf]
      cases Fit.find? D.type w with
      | none => exact .faulty fun _ => Fault.noConfusion
      | some fit => exact .converted (.narrow D w c fit)

theorem carries_widenCode (E : Domain S) (checking : Checking) (c : AnyCode S) :
    Carries (convert? c (.domain E checking)) (widenCode E checking c) := by
  obtain ⟨shape, x⟩ := c
  cases shape with
  | typed D => exact .faulty fun _ => Fault.noConfusion
  | erased w =>
      rw [widenCode, fitOf]
      cases checking with
      | checked =>
          rw [convert?]
          cases Fit.find? E.type w with
          | none => exact .faulty fun _ => Fault.noConfusion
          | some fit => exact .converted (.tryWiden w x E fit)
      | unchecked =>
          rw [convert?, soundness]
          -- The width is looked at before the type, but either fault is one of the request.
          cases Fit.find? E.type w with
          | none =>
              rw [Option.map_none, ite_self]
              exact .faulty fun _ => Fault.noConfusion
          | some fit =>
              cases x.widensSafely E with
              | false => exact .faulty fun _ => Fault.noConfusion
              | true => exact .converted (.widen w x E fit)

/-- To be accepted as an erased code of some width is to be narrowed to it. -/
theorem acceptCode_some (w : Width) (c : AnyCode S) : acceptCode (some w) c = eraseCode w c := by
  obtain ⟨shape, c⟩ := c
  cases shape with
  | erased w' => rfl
  | typed D =>
      rw [acceptCode, acceptance, eraseCode]
      cases fitOf D.type w <;> rfl

theorem carries_acceptCode (w : Option Width) (c : AnyCode S) :
    Carries ((w.map .width).bind (convert? c)) (acceptCode w c) := by
  cases w with
  | none => exact .kept (.code c)
  | some w =>
      rw [acceptCode_some]
      exact carries_eraseCode w c

/-- What is wanted is looked up after the code. -/
theorem carries_readable {α : Type} {goal : α → Goal S} {c : AnyCode S}
    {next : α → Except Fault (Outcome (Slot S))} (wanted : Option α)
    (hnext : ∀ a, Carries (convert? c (goal a)) (next a)) :
    Carries ((wanted.map goal).bind (convert? c)) (readable wanted >>= next) := by
  cases wanted with
  | none => exact .faulty fun _ => Fault.noConfusion
  | some a => exact hnext a

/-- **The draft of a build is its conversion**, or something that is there already. -/
theorem Build.carries_draft (how : Build S) (regs : Registers S) :
    Carries (how.conversion? regs) (how.draft regs) := by
  cases how with
  | code c => exact .kept (.code c)
  | default shape | failOfDefault shape =>
      rw [Build.draft]
      cases Code.default? shape with
      | none => exact .faulty fun _ => Fault.noConfusion
      | some c => exact .kept (.code ⟨shape, c⟩)
  | failOfValue D v => exact .kept (.code ⟨.typed D, .typed D v⟩)
  | failInPlace D T build a => exact .kept (.code ⟨.typed D, .typed D (build a)⟩)
  | copy source => exact (looksUp_slot regs source).carries_pure fun slot => slot
  | fail source | failOfCopy source => exact (looksUp_code regs source).carries_pure .code
  | unwrap source =>
      exact (looksUp_failure regs source).carries_pure fun f => .code (Slot.failure f).anyCode
  | erase source w =>
      exact (looksUp_code regs source).carries fun c =>
        carries_readable w fun w => carries_eraseCode w c
  | failNarrowed source w =>
      exact (looksUp_code regs source).carries fun c =>
        carries_readable w fun w => carries_acceptCode (some w) c
  | failErase source w =>
      rw [Build.conversion?, Build.source?, Option.bind_map]
      exact (looksUp_failure regs source).carries fun f =>
        carries_readable w fun w => carries_eraseCode w (Slot.failure f).anyCode
  | widen source E checking | failOfErased source E checking =>
      exact (looksUp_code regs source).carries fun c =>
        carries_readable E fun E => carries_widenCode E checking c
  | failWiden source E checking =>
      rw [Build.conversion?, Build.source?, Option.bind_map]
      exact (looksUp_failure regs source).carries fun f =>
        carries_readable E fun E => carries_widenCode E checking (Slot.failure f).anyCode
  | failOfSource c w => exact carries_acceptCode w c
  | failOfError T into a w => exact carries_acceptCode w _
  | failOfErrorWith T U into a b w => exact carries_acceptCode w _

end TaggedStatus.Session
