/-
Errors that the catalogue's codes are made from.

Errors of a disk become raw codes, or labels when it is said what was being
done. An operation that was given up becomes a generic code: called off if it was
never tried, and out of time if it was.
-/
import TaggedStatus.Catalog.Domains
import TaggedStatus.IoError

set_option autoImplicit false

namespace TaggedStatus.Catalog

/-! ## Errors of a disk -/

/-- Errors of a disk (`DiskError`). -/
inductive DiskError where
  | missing
  | locked
  | quotaExceeded
  deriving DecidableEq, Repr

namespace DiskError

/-- All of them (`DiskError::ALL`). -/
def all : List DiskError := [.missing, .locked, .quotaExceeded]

/-- The number of an error in the system interface (`DiskError::raw`). -/
def number : DiskError → UInt32
  | .missing => 2
  | .locked => 16
  | .quotaExceeded => 122

/-- The name of an error. -/
def name : DiskError → String
  | .missing => "Missing"
  | .locked => "Locked"
  | .quotaExceeded => "QuotaExceeded"

/-- The error with a given name. -/
def ofName? (s : String) : Option DiskError :=
  all.find? (fun e => e.name == s)

/-- The text of an error with what was being done. -/
def labelled (e : DiskError) (context : String) : String :=
  context ++ ": " ++ e.name

end DiskError

instance : IntoCode setting DiskError where
  shape := .typed raw
  code e := .typed raw e.number

instance : IntoCodeWith setting DiskError String where
  shape := .typed label
  code e context := .typed label (e.labelled context)

/-! ## Operations that were given up -/

/-- An operation was given up after so many attempts. -/
structure GivenUp where
  attempts : UInt32
  deriving DecidableEq

/-- The condition of an operation that was given up. -/
def GivenUp.condition (g : GivenUp) : Condition :=
  if g.attempts = 0 then .operationCanceled else .timedOut

instance : IntoCodeWith setting GivenUp String where
  shape := .typed .generic
  code g _ := Code.ofCondition g.condition

/-! ## Any of them -/

/-- The code that an error converts to, whatever its shape. -/
def codeOf {α : Type} [IntoCode setting α] (a : α) : AnyCode setting :=
  ⟨IntoCode.shape α, IntoCode.code a⟩

/-- The code that an error converts to with what is said about it. -/
def codeOfWith {α β : Type} [IntoCodeWith setting α β] (a : α) (b : β) : AnyCode setting :=
  ⟨IntoCodeWith.shape α β, IntoCodeWith.code a b⟩

end TaggedStatus.Catalog
