/-
Building codes and failures from what a session holds.

A session keeps codes and failures in named registers. A `Build` says how to
make one more: from something given, or from what a register holds. Each build
is one operation of the library; what is added here is only that a register may
be missing, may hold the other of the two kinds, may hold a code that does not
fit, or one that the unchecked widening would misread. These are faults of the
request, found before the operation runs. The register is looked at first, so
what is asked of it may still be unreadable then: it is an `Option`, and `none`
is a fault of its own that comes second.
-/
import TaggedStatus.Failure.Erasure

set_option autoImplicit false

namespace TaggedStatus.Session

/-- What a register holds. -/
inductive Slot (S : Setting) where
  | code (c : AnyCode S)
  | failure (f : AnyFailure S)

/-- Why a request was not carried out. -/
inductive Fault where
  /-- The register was never set. -/
  | noRegister
  /-- A code was needed and there is a failure, or the reverse. -/
  | wrongKind
  /-- The code does not fit the width, or is of the wrong shape to begin with. -/
  | noFit
  /-- The unchecked widening would read a value of another type. -/
  | unsound
  /-- The values of the domain have no default. -/
  | noDefault
  /-- The request could not be read. -/
  | unreadable
  /-- The operation ran and did not come to an end. -/
  | stopped (reason : Stop)
  deriving DecidableEq

/-- How a widening is checked. -/
inductive Checking where
  | checked
  | unchecked
  deriving DecidableEq, Repr

/-- How to make a code or a failure. -/
inductive Build (S : Setting) where
  /-- A code that is given: of a value, or what an error converts to. -/
  | code (c : AnyCode S)
  /-- The default code of a shape. -/
  | default (shape : Shape S)
  /-- Narrow a typed code. -/
  | erase (source : String) (w : Option Width)
  /-- Widen an erased code. -/
  | widen (source : String) (E : Option (Domain S)) (checking : Checking)
  /-- A code or failure again. -/
  | copy (source : String)
  /-- The failure of a code. -/
  | fail (source : String)
  /-- The failure of a copy of a code. -/
  | failOfCopy (source : String)
  /-- The erased failure of a typed code. -/
  | failNarrowed (source : String) (w : Option Width)
  /-- The failure of a value. -/
  | failOfValue (D : Domain S) (v : D.Value)
  /-- The failure of a value that is built from a value of another type. -/
  | failInPlace (D : Domain S) (T : ValueType S) (build : T.Carrier → D.Value) (a : T.Carrier)
  /-- The failure of the default code of a shape. -/
  | failOfDefault (shape : Shape S)
  /-- The failure of what an error has been converted to, erased if a width is
  given. -/
  | failOfSource (c : AnyCode S) (w : Option Width)
  /-- The failure of what an error converts to, erased if a width is given. -/
  | failOfError (T : ValueType S) (into : IntoCode S T.Carrier) (a : T.Carrier)
      (w : Option Width)
  /-- The failure of what an error converts to with what is said about it, erased
  if a width is given. -/
  | failOfErrorWith (T U : ValueType S) (into : IntoCodeWith S T.Carrier U.Carrier)
      (a : T.Carrier) (b : U.Carrier) (w : Option Width)
  /-- Narrow a typed failure. -/
  | failErase (source : String) (w : Option Width)
  /-- The failure of an erased code, widened. -/
  | failOfErased (source : String) (E : Option (Domain S)) (checking : Checking)
  /-- Widen an erased failure. -/
  | failWiden (source : String) (E : Option (Domain S)) (checking : Checking)
  /-- The code of a failure. -/
  | unwrap (source : String)

variable {S : Setting}

/-! ## Reading registers -/

/-- The registers of a session, by name. -/
abbrev Registers (S : Setting) : Type := List (String × Slot S)

/-- What a register holds. -/
def Registers.slot (regs : Registers S) (name : String) : Except Fault (Slot S) :=
  match regs.lookup name with
  | none => .error .noRegister
  | some slot => .ok slot

/-- The code in a register. -/
def Registers.code (regs : Registers S) (name : String) : Except Fault (AnyCode S) :=
  match regs.slot name with
  | .error fault => .error fault
  | .ok (.failure _) => .error .wrongKind
  | .ok (.code c) => .ok c

/-- The failure in a register. -/
def Registers.failure (regs : Registers S) (name : String) : Except Fault (AnyFailure S) :=
  match regs.slot name with
  | .error fault => .error fault
  | .ok (.code _) => .error .wrongKind
  | .ok (.failure f) => .ok f

/-- Something a request names beside a register, or the fault that it could not
be read. -/
def readable {α : Type} : Option α → Except Fault α
  | none => .error .unreadable
  | some x => .ok x

/-! ## Carrying out a build -/

/-- The outcome of an operation that makes a code, as the contents of a register. -/
def keepCode {shape : Shape S} (o : Outcome (Code S shape)) : Outcome (Slot S) := do
  let c ← o
  return .code ⟨shape, c⟩

/-- The outcome of an operation that makes a failure, as the contents of a
register. -/
def keepFailure {shape : Shape S} (o : Outcome (Failure S shape)) : Outcome (Slot S) := do
  let f ← o
  return .failure ⟨shape, f⟩

/-- How a type fits a width, or the fault that it does not. -/
def fitOf (T : ValueType S) (w : Width) : Except Fault (Fit T w) :=
  match Fit.find? T w with
  | none => .error .noFit
  | some fit => .ok fit

/-- The fault of a widening that would misread the value. -/
def soundness {w : Width} (x : Code S (.erased w)) (E : Domain S) :
    Checking → Except Fault Unit
  | .checked => .ok ()
  | .unchecked => if x.widensSafely E then .ok () else .error .unsound

/-- Narrow a typed code. -/
def eraseCode (w : Width) : AnyCode S → Except Fault (Outcome (Slot S))
  | ⟨.erased _, _⟩ => .error .noFit
  | ⟨.typed D, c⟩ => do
      let fit ← fitOf D.type w
      return keepCode (c.erase fit)

/-- Widen an erased code. -/
def widenCode (E : Domain S) (checking : Checking) : AnyCode S → Except Fault (Outcome (Slot S))
  | ⟨.typed _, _⟩ => .error .noFit
  | ⟨.erased w, x⟩ => do
      let fit ← fitOf E.type w
      soundness x E checking
      return keepCode (match checking with
        | .checked => x.tryWiden E fit
        | .unchecked => x.widen E fit)

/-- The shape that codes of a given shape are turned into: the same, or an erased
one if a width is given. -/
def acceptance (shape : Shape S) : Option Width →
    Except Fault ((target : Shape S) × Code.Accepts target shape)
  | none => .ok ⟨shape, .same shape⟩
  | some w => match shape with
      | .erased _ => .error .noFit
      | .typed D => do
          let fit ← fitOf D.type w
          return ⟨.erased w, .narrowing fit⟩

variable (amb : S.Ambient)

/-- The failure of what an error converts to. -/
def failOf {α : Type} [IntoCode S α] (a : α) (w : Option Width) :
    Except Fault (Outcome (Slot S)) := do
  let ⟨_, acc⟩ ← acceptance (IntoCode.shape α) w
  return keepFailure (Failure.ofSource amb acc a)

/-- The failure of what an error converts to with what is said about it. -/
def failOfWith {α β : Type} [IntoCodeWith S α β] (a : α) (b : β) (w : Option Width) :
    Except Fault (Outcome (Slot S)) := do
  let ⟨_, acc⟩ ← acceptance (IntoCodeWith.shape α β) w
  return keepFailure (Failure.ofSourceWith amb acc a b)

/-- Narrow a typed failure. -/
def eraseFailure (w : Width) : AnyFailure S → Except Fault (Outcome (Slot S))
  | ⟨.erased _, _⟩ => .error .noFit
  | ⟨.typed D, f⟩ => do
      let fit ← fitOf D.type w
      return keepFailure (f.erase amb fit)

/-- The failure of an erased code, widened. -/
def failOfErasedCode (E : Domain S) (checking : Checking) :
    AnyCode S → Except Fault (Outcome (Slot S))
  | ⟨.typed _, _⟩ => .error .noFit
  | ⟨.erased w, x⟩ => do
      let fit ← fitOf E.type w
      soundness x E checking
      return keepFailure (match checking with
        | .checked => Failure.tryOfErased amb x E fit
        | .unchecked => Failure.ofErased amb x E fit)

/-- Widen an erased failure. -/
def widenFailure (E : Domain S) (checking : Checking) :
    AnyFailure S → Except Fault (Outcome (Slot S))
  | ⟨.typed _, _⟩ => .error .noFit
  | ⟨.erased w, f⟩ => do
      let fit ← fitOf E.type w
      soundness f.code E checking
      return keepFailure (match checking with
        | .checked => f.tryWiden amb E fit
        | .unchecked => f.widen amb E fit)

/-- What a build makes of the registers, under the outside state of the moment. -/
def Build.run (regs : Registers S) : Build S → Except Fault (Outcome (Slot S))
  | .code c => .ok (pure (.code c))
  | .default shape =>
      match Code.default? shape with
      | none => .error .noDefault
      | some c => .ok (pure (.code ⟨shape, c⟩))
  | .erase source w => do
      let c ← regs.code source
      eraseCode (← readable w) c
  | .widen source E checking => do
      let c ← regs.code source
      widenCode (← readable E) checking c
  | .copy source => do return pure (← regs.slot source)
  | .fail source => do
      let c ← regs.code source
      return keepFailure (Failure.ofCode amb c.code)
  | .failOfCopy source => do
      let c ← regs.code source
      return keepFailure (Failure.ofCopy amb c.code)
  | .failNarrowed source w => do
      let c ← regs.code source
      failOf amb c.code (some (← readable w))
  | .failOfValue D v => .ok (keepFailure (Failure.ofValue amb D v))
  | .failInPlace D _ build a => .ok (keepFailure (Failure.inPlace amb D build a))
  | .failOfDefault shape =>
      match Failure.ofDefault? amb shape with
      | none => .error .noDefault
      | some o => .ok (keepFailure o)
  | .failOfSource c w => failOf amb c.code w
  | .failOfError _ _ a w => failOf amb a w
  | .failOfErrorWith _ _ _ a b w => failOfWith amb a b w
  | .failErase source w => do
      let f ← regs.failure source
      eraseFailure amb (← readable w) f
  | .failOfErased source E checking => do
      let c ← regs.code source
      failOfErasedCode amb (← readable E) checking c
  | .failWiden source E checking => do
      let f ← regs.failure source
      widenFailure amb (← readable E) checking f
  | .unwrap source => do
      let f ← regs.failure source
      return pure (.code ⟨f.shape, f.failure.code⟩)

end TaggedStatus.Session
