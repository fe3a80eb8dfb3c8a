/-
Looking at what a session holds.

A `Query` asks about registers and changes nothing. The answers keep two views
of a failure apart. Comparisons with `==` take the code out of a failure first;
the dynamic view hands the failure over as it is, and then it is not success
whatever its domain says by now.
-/
import TaggedStatus.Comparison
import TaggedStatus.Session.Build

set_option autoImplicit false

namespace TaggedStatus.Session

variable {S : Setting}

/-! ## Single registers -/

/-- What is shown of a code, or of the code in a failure, when it is made. -/
structure Summary where
  isFailure : Bool
  /-- The code or failure on one line, as a developer sees it. -/
  debug : String
  name : String
  id : Option DomainId
  isEmpty : Bool
  success : Bool
  failure : Bool
  condition : Condition

/-- A value that is shown: with its type, or as bytes of some width. -/
inductive Shown (S : Setting) where
  | typed (held : Held S)
  | payload (w : Width)

/-- Everything there is to see in a register. -/
structure Inspection (S : Setting) where
  summary : Summary
  /-- The code or failure with a line for each part. -/
  tall : String
  /-- The domain as a developer sees it. -/
  domainText : String
  value : Shown S
  /-- The dynamic view. -/
  face : Face S

/-- The value of a code as its owner sees it. -/
def shownValue : {shape : Shape S} → Code S shape → Shown S
  | _, .typed D v => .typed ⟨D.type, v⟩
  | _, .empty w => .payload w
  | .erased w, .narrowed .. => .payload w

namespace Slot

/-- The code in a register, taken out of its failure. -/
def anyCode : Slot S → AnyCode S
  | .code c => c
  | .failure f => ⟨f.shape, f.failure.code⟩

/-- The structure of what is in a register. -/
def outline : Slot S → Outline
  | .code c => c.code.outline
  | .failure f => f.failure.outline

/-- The dynamic view of what is in a register. -/
def status (amb : S.Ambient) : Slot S → Status S
  | .code c => c.code.status amb
  | .failure f => f.failure.status amb

/-- What is in a register, as one side of a comparison. -/
def operand : Slot S → Operand S
  | .code c => .code c.code
  | .failure f => .failure f.failure

/-- What is shown when a register is set. -/
def summary (amb : S.Ambient) (slot : Slot S) : Summary :=
  let c := slot.anyCode.code
  { isFailure := match slot with
      | .code _ => false
      | .failure _ => true
    debug := slot.outline.flat
    name := c.name
    id := c.id
    isEmpty := c.isEmpty
    success := c.success amb
    failure := c.failure amb
    condition := c.condition amb }

/-- Everything there is to see in a register. -/
def inspection (amb : S.Ambient) (slot : Slot S) : Inspection S where
  summary := slot.summary amb
  tall := slot.outline.tall
  domainText := slot.anyCode.code.domainText
  value := shownValue slot.anyCode.code
  face := (slot.status amb).face

end Slot

/-! ## Comparisons -/

/-- All the ways of comparing two registers. -/
structure Comparison where
  /-- `a == b`, `a != b`, `b == a` and `b != a`. -/
  operators : List Bool
  /-- The code of `a` against the dynamic view of `b`. -/
  codeAgainstView : Bool
  /-- The dynamic view of `a` against that of `b`. -/
  viewAgainstView : Bool
  /-- The dynamic views the other way round. -/
  reversed : Bool
  /-- Does `a` recognise `b`, and does `b` recognise `a`? -/
  oneSided : List Bool

/-- Comparisons of every register with every other. -/
structure Matrix where
  equivalent : List (List Bool)
  oneSided : List (List Bool)

/-- The four operators between two operands. -/
def operators (amb : S.Ambient) (depth : Nat) (x y : Operand S) : List Bool :=
  [x.equals amb depth y, x.differs amb depth y, y.equals amb depth x, y.differs amb depth x]

/-- All the ways of comparing what two registers hold. -/
def Slot.compare (amb : S.Ambient) (depth : Nat) (a b : Slot S) : Comparison :=
  let x := a.status amb
  let y := b.status amb
  { operators := Session.operators amb depth a.operand b.operand
    codeAgainstView := (a.anyCode.code.status amb).equivalent depth y
    viewAgainstView := x.equivalent depth y
    reversed := y.equivalent depth x
    oneSided := [x.recognisesStatus depth y, y.recognisesStatus depth x] }

/-- Comparisons of everything in a list with everything in it. -/
def compareAll (amb : S.Ambient) (depth : Nat) (slots : List (Slot S)) : Matrix where
  equivalent := slots.map fun a => slots.map fun b => a.operand.equals amb depth b.operand
  oneSided := slots.map fun a => slots.map fun b =>
    (a.status amb).recognisesStatus depth (b.status amb)

/-! ## Queries -/

/-- A question about registers. What comes behind the first register may be
unreadable, which is found when its turn comes. -/
inductive Query where
  /-- The value of a code. -/
  | value (source : String)
  /-- Everything there is to see. -/
  | inspect (source : String)
  /-- Two registers compared. -/
  | compare (a : String) (b : Option String)
  /-- A register compared with a condition. -/
  | compareCondition (a : String) (c : Option Condition)
  /-- Registers compared with each other. -/
  | matrix (names : List (Option String))

/-- The answer to a request. -/
inductive Answer (S : Setting) where
  | done
  | summary (s : Summary)
  | value (v : Shown S)
  | inspection (i : Inspection S)
  | comparison (c : Comparison)
  | operators (bits : List Bool)
  | matrix (m : Matrix)

/-- What a query finds in the registers, under the outside state of the moment. -/
def Query.run (amb : S.Ambient) (depth : Nat) (regs : Registers S) :
    Query → Except Fault (Answer S)
  | .value source => do
      let c ← regs.code source
      return .value (shownValue c.code)
  | .inspect source => do
      let slot ← regs.slot source
      return .inspection (slot.inspection amb)
  | .compare a b => do
      let x ← regs.slot a
      let y ← regs.slot (← readable b)
      return .comparison (x.compare amb depth y)
  | .compareCondition a c => do
      let x ← regs.slot a
      return .operators (operators amb depth x.operand (.condition (← readable c)))
  | .matrix names => do
      let slots ← names.mapM fun name => do regs.slot (← readable name)
      return .matrix (compareAll amb depth slots)

end TaggedStatus.Session
