/-
Errors of input and output.

Such an error comes from the operating system with a number, or from a library
with a kind, with or without something attached. The kinds are coarser than the
numbers: the system's numbers are sorted into kinds by a table, and a number
that the table does not know is `uncategorized`.

The nearest generic condition of an error is the condition with its number, if
it has a number and there is such a condition, and otherwise the condition of
its kind. A kind without a counterpart among the conditions is `unknown`. Success
is the condition of one error only, that of the number 0
(`condition_eq_success_iff`).
-/
import TaggedStatus.Source

set_option autoImplicit false

namespace TaggedStatus

namespace IoError

/-! ## Kinds -/

/-- The kinds of errors of input and output (`io::ErrorKind`). -/
inductive Kind where
  | notFound
  | permissionDenied
  | connectionRefused
  | connectionReset
  | hostUnreachable
  | networkUnreachable
  | connectionAborted
  | notConnected
  | addrInUse
  | addrNotAvailable
  | networkDown
  | brokenPipe
  | alreadyExists
  | wouldBlock
  | notADirectory
  | isADirectory
  | directoryNotEmpty
  | readOnlyFilesystem
  | filesystemLoop
  | staleNetworkFileHandle
  | invalidInput
  | invalidData
  | timedOut
  | writeZero
  | storageFull
  | notSeekable
  | quotaExceeded
  | fileTooLarge
  | resourceBusy
  | executableFileBusy
  | deadlock
  | crossesDevices
  | tooManyLinks
  | invalidFilename
  | argumentListTooLong
  | interrupted
  | unsupported
  | unexpectedEof
  | outOfMemory
  | inProgress
  | other
  | uncategorized
  deriving DecidableEq, Repr

namespace Kind

/-- Every kind, once. -/
def all : List Kind := [
  .notFound, .permissionDenied, .connectionRefused, .connectionReset, .hostUnreachable,
  .networkUnreachable, .connectionAborted, .notConnected, .addrInUse, .addrNotAvailable,
  .networkDown, .brokenPipe, .alreadyExists, .wouldBlock, .notADirectory, .isADirectory,
  .directoryNotEmpty, .readOnlyFilesystem, .filesystemLoop, .staleNetworkFileHandle,
  .invalidInput, .invalidData, .timedOut, .writeZero, .storageFull, .notSeekable,
  .quotaExceeded, .fileTooLarge, .resourceBusy, .executableFileBusy, .deadlock, .crossesDevices,
  .tooManyLinks, .invalidFilename, .argumentListTooLong, .interrupted, .unsupported,
  .unexpectedEof, .outOfMemory, .inProgress, .other, .uncategorized]

/-- The name of a kind. -/
def name : Kind → String
  | .notFound => "NotFound"
  | .permissionDenied => "PermissionDenied"
  | .connectionRefused => "ConnectionRefused"
  | .connectionReset => "ConnectionReset"
  | .hostUnreachable => "HostUnreachable"
  | .networkUnreachable => "NetworkUnreachable"
  | .connectionAborted => "ConnectionAborted"
  | .notConnected => "NotConnected"
  | .addrInUse => "AddrInUse"
  | .addrNotAvailable => "AddrNotAvailable"
  | .networkDown => "NetworkDown"
  | .brokenPipe => "BrokenPipe"
  | .alreadyExists => "AlreadyExists"
  | .wouldBlock => "WouldBlock"
  | .notADirectory => "NotADirectory"
  | .isADirectory => "IsADirectory"
  | .directoryNotEmpty => "DirectoryNotEmpty"
  | .readOnlyFilesystem => "ReadOnlyFilesystem"
  | .filesystemLoop => "FilesystemLoop"
  | .staleNetworkFileHandle => "StaleNetworkFileHandle"
  | .invalidInput => "InvalidInput"
  | .invalidData => "InvalidData"
  | .timedOut => "TimedOut"
  | .writeZero => "WriteZero"
  | .storageFull => "StorageFull"
  | .notSeekable => "NotSeekable"
  | .quotaExceeded => "QuotaExceeded"
  | .fileTooLarge => "FileTooLarge"
  | .resourceBusy => "ResourceBusy"
  | .executableFileBusy => "ExecutableFileBusy"
  | .deadlock => "Deadlock"
  | .crossesDevices => "CrossesDevices"
  | .tooManyLinks => "TooManyLinks"
  | .invalidFilename => "InvalidFilename"
  | .argumentListTooLong => "ArgumentListTooLong"
  | .interrupted => "Interrupted"
  | .unsupported => "Unsupported"
  | .unexpectedEof => "UnexpectedEof"
  | .outOfMemory => "OutOfMemory"
  | .inProgress => "InProgress"
  | .other => "Other"
  | .uncategorized => "Uncategorized"

/-- The kind with a given name. -/
def ofName? (s : String) : Option Kind :=
  all.find? (fun k => k.name == s)

/-- The generic condition nearest to a kind (`From<io::ErrorKind> for Errc`). -/
def condition : Kind → Condition
  | .notFound => .noSuchFileOrDirectory
  | .permissionDenied => .permissionDenied
  | .connectionRefused => .connectionRefused
  | .connectionReset => .connectionReset
  | .hostUnreachable => .hostUnreachable
  | .networkUnreachable => .networkUnreachable
  | .connectionAborted => .connectionAborted
  | .notConnected => .notConnected
  | .addrInUse => .addressInUse
  | .addrNotAvailable => .addressNotAvailable
  | .networkDown => .networkDown
  | .brokenPipe => .brokenPipe
  | .alreadyExists => .fileExists
  | .wouldBlock => .resourceUnavailableTryAgain
  | .notADirectory => .notADirectory
  | .isADirectory => .isADirectory
  | .directoryNotEmpty => .directoryNotEmpty
  | .readOnlyFilesystem => .readOnlyFileSystem
  | .invalidInput => .invalidArgument
  | .invalidData => .badMessage
  | .timedOut => .timedOut
  | .writeZero => .ioError
  | .storageFull => .noSpaceOnDevice
  | .notSeekable => .invalidSeek
  | .fileTooLarge => .fileTooLarge
  | .resourceBusy => .resourceBusy
  | .executableFileBusy => .textFileBusy
  | .deadlock => .resourceDeadlockWouldOccur
  | .tooManyLinks => .tooManyLinks
  | .argumentListTooLong => .argumentListTooLong
  | .interrupted => .interrupted
  | .unsupported => .notSupported
  | .unexpectedEof => .ioError
  | .outOfMemory => .notEnoughMemory
  | _ => .unknown

/-- The kind into which the system sorts one of its numbers. -/
def ofSystemNumber (n : Int) : Kind :=
  match n with
  | 1 => .permissionDenied
  | 2 => .notFound
  | 4 => .interrupted
  | 7 => .argumentListTooLong
  | 11 => .wouldBlock
  | 12 => .outOfMemory
  | 13 => .permissionDenied
  | 16 => .resourceBusy
  | 17 => .alreadyExists
  | 18 => .crossesDevices
  | 20 => .notADirectory
  | 21 => .isADirectory
  | 22 => .invalidInput
  | 26 => .executableFileBusy
  | 27 => .fileTooLarge
  | 28 => .storageFull
  | 29 => .notSeekable
  | 30 => .readOnlyFilesystem
  | 31 => .tooManyLinks
  | 32 => .brokenPipe
  | 35 => .deadlock
  | 36 => .invalidFilename
  | 38 => .unsupported
  | 39 => .directoryNotEmpty
  | 40 => .filesystemLoop
  | 95 => .unsupported
  | 98 => .addrInUse
  | 99 => .addrNotAvailable
  | 100 => .networkDown
  | 101 => .networkUnreachable
  | 103 => .connectionAborted
  | 104 => .connectionReset
  | 107 => .notConnected
  | 110 => .timedOut
  | 111 => .connectionRefused
  | 113 => .hostUnreachable
  | 115 => .inProgress
  | 116 => .staleNetworkFileHandle
  | 122 => .quotaExceeded
  | _ => .uncategorized

/-- No kind stands for success. -/
theorem condition_ne_success (k : Kind) : k.condition ≠ .success := by
  cases k <;> decide

/-- A number that belongs to no condition is sorted into a kind without one. -/
theorem condition_ofSystemNumber {n : Int} (h : ∀ c : Condition, c.number ≠ n) :
    (ofSystemNumber n).condition = .unknown := by
  have hnone : Condition.ofNumber? n = none := Condition.ofNumber?_eq_none_iff.mpr h
  -- Of the numbers in the table, those whose kind has a condition belong to one themselves.
  have hlisted : (ofSystemNumber n).condition = .unknown
      ∨ (Condition.ofNumber? n).isSome = true := by
    unfold ofSystemNumber
    split
    -- The last row is for the numbers that are not in the table.
    case h_40 => exact .inl rfl
    all_goals decide
  rcases hlisted with hunknown | hsome
  · exact hunknown
  · rw [hnone] at hsome
    exact absurd hsome Bool.false_ne_true

end Kind

end IoError

/-! ## Errors -/

/-- An error of input or output (`io::Error`). -/
inductive IoError where
  /-- From the operating system. -/
  | system (number : Int)
  /-- A kind and no more. -/
  | simple (kind : IoError.Kind)
  /-- A kind, and something attached. -/
  | custom (kind : IoError.Kind) (attached : String)
  deriving DecidableEq

namespace IoError

/-- The number of an error from the operating system (`io::Error::raw_os_error`). -/
def systemNumber? : IoError → Option Int
  | .system n => some n
  | .simple _ | .custom .. => none

/-- The kind of an error (`io::Error::kind`). -/
def kind : IoError → Kind
  | .system n => .ofSystemNumber n
  | .simple k => k
  | .custom k _ => k

/-- The generic condition nearest to an error. -/
def condition (e : IoError) : Condition :=
  match e.systemNumber?.bind Condition.ofNumber? with
  | some c => c
  | none => e.kind.condition

/-- A number that belongs to a condition stands for that condition, whatever
kind the system sorts it into. -/
theorem condition_system_number (c : Condition) : (system c.number).condition = c := by
  simp only [condition, systemNumber?, Option.bind_some, Condition.ofNumber?_number]

/-- The condition of any other error is that of its kind. -/
theorem condition_of_no_number {e : IoError} (h : ∀ c : Condition, e ≠ .system c.number) :
    e.condition = e.kind.condition := by
  cases e with
  | simple k => rfl
  | custom k attached => rfl
  | system n =>
      have hnone : Condition.ofNumber? n = none := by
        rw [Condition.ofNumber?_eq_none_iff]
        intro c hc
        exact h c (congrArg system hc.symm)
      simp only [condition, systemNumber?, Option.bind_some, hnone]

/-- The only error that comes nearest to success is that of the system's number 0. -/
theorem condition_eq_success_iff {e : IoError} : e.condition = .success ↔ e = .system 0 := by
  constructor
  · intro hsuccess
    by_cases hnumber : ∃ c : Condition, e = .system c.number
    · obtain ⟨c, rfl⟩ := hnumber
      rw [condition_system_number] at hsuccess
      rw [hsuccess, Condition.number]
    · rw [condition_of_no_number (not_exists.mp hnumber)] at hsuccess
      exact absurd hsuccess e.kind.condition_ne_success
  · rintro rfl
    exact condition_system_number .success

/-- An error that stays with its owner (`&io::Error`). -/
structure Lent where
  error : IoError

end IoError

/-! ## Errors as sources of codes -/

variable {S : Setting}

instance : IntoCode S IoError.Kind where
  shape := .typed .generic
  code k := Code.ofCondition k.condition

instance : IntoCode S IoError where
  shape := .typed .generic
  code e := Code.ofCondition e.condition

/-- A lent error is looked up by its number first; without success there it is left to its
kind. -/
instance : IntoCode S IoError.Lent where
  shape := .typed .generic
  code lent :=
    match lent.error.systemNumber?.bind Condition.ofNumber? with
    | some c => Code.ofCondition c
    | none => IntoCode.code lent.error.kind

end TaggedStatus
