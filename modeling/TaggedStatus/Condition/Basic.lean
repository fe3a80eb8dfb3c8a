/-
The generic conditions: the one classification that every other domain can be
mapped onto.

A condition is a cause of failure known to the whole system, such as a missing
file or a timeout, together with two that are not causes: `success`, and
`unknown` for a value that nobody has classified. Each condition has a number,
the one the Linux system interface gives it (`unknown`, which has none there,
is -1), and a name. Three tables are kept here -- the conditions in their order,
the numbers and the names -- and everything else that reads a number or a name
searches the first table, so the searches are exact because the tables are
without repetition and without gaps. That is what the three main statements
say: `mem_all`, `ofNumber?_number` and `ofName?_name`.
-/

set_option autoImplicit false

namespace TaggedStatus

/-! ## The conditions -/

/-- A generic condition (`Errc`). -/
inductive Condition where
  | success
  | unknown
  | operationNotPermitted
  | noSuchFileOrDirectory
  | noSuchProcess
  | interrupted
  | ioError
  | noSuchDeviceOrAddress
  | argumentListTooLong
  | executableFormatError
  | badFileDescriptor
  | noChildProcess
  | resourceUnavailableTryAgain
  | notEnoughMemory
  | permissionDenied
  | badAddress
  | resourceBusy
  | fileExists
  | crossDeviceLink
  | noSuchDevice
  | notADirectory
  | isADirectory
  | invalidArgument
  | tooManyFilesOpenInSystem
  | tooManyFilesOpen
  | inappropriateIoControlOperation
  | textFileBusy
  | fileTooLarge
  | noSpaceOnDevice
  | invalidSeek
  | readOnlyFileSystem
  | tooManyLinks
  | brokenPipe
  | argumentOutOfDomain
  | resultOutOfRange
  | resourceDeadlockWouldOccur
  | filenameTooLong
  | noLockAvailable
  | functionNotSupported
  | directoryNotEmpty
  | tooManySymbolicLinkLevels
  | noMessage
  | identifierRemoved
  | noLink
  | protocolError
  | badMessage
  | valueTooLarge
  | illegalByteSequence
  | notASocket
  | destinationAddressRequired
  | messageSize
  | wrongProtocolType
  | noProtocolOption
  | protocolNotSupported
  | notSupported
  | addressFamilyNotSupported
  | addressInUse
  | addressNotAvailable
  | networkDown
  | networkUnreachable
  | networkReset
  | connectionAborted
  | connectionReset
  | noBufferSpace
  | alreadyConnected
  | notConnected
  | timedOut
  | connectionRefused
  | hostUnreachable
  | connectionAlreadyInProgress
  | operationInProgress
  | operationCanceled
  | ownerDead
  | stateNotRecoverable
  deriving DecidableEq, Repr, Inhabited

namespace Condition

/-- Every condition, once, in the order in which they are listed to a reader:
`success` and `unknown` first, then by number (`Errc::ALL`). -/
def all : List Condition := [
  .success, .unknown, .operationNotPermitted, .noSuchFileOrDirectory, .noSuchProcess,
  .interrupted, .ioError, .noSuchDeviceOrAddress, .argumentListTooLong, .executableFormatError,
  .badFileDescriptor, .noChildProcess, .resourceUnavailableTryAgain, .notEnoughMemory,
  .permissionDenied, .badAddress, .resourceBusy, .fileExists, .crossDeviceLink, .noSuchDevice,
  .notADirectory, .isADirectory, .invalidArgument, .tooManyFilesOpenInSystem, .tooManyFilesOpen,
  .inappropriateIoControlOperation, .textFileBusy, .fileTooLarge, .noSpaceOnDevice,
  .invalidSeek, .readOnlyFileSystem, .tooManyLinks, .brokenPipe, .argumentOutOfDomain,
  .resultOutOfRange, .resourceDeadlockWouldOccur, .filenameTooLong, .noLockAvailable,
  .functionNotSupported, .directoryNotEmpty, .tooManySymbolicLinkLevels, .noMessage,
  .identifierRemoved, .noLink, .protocolError, .badMessage, .valueTooLarge,
  .illegalByteSequence, .notASocket, .destinationAddressRequired, .messageSize,
  .wrongProtocolType, .noProtocolOption, .protocolNotSupported, .notSupported,
  .addressFamilyNotSupported, .addressInUse, .addressNotAvailable, .networkDown,
  .networkUnreachable, .networkReset, .connectionAborted, .connectionReset, .noBufferSpace,
  .alreadyConnected, .notConnected, .timedOut, .connectionRefused, .hostUnreachable,
  .connectionAlreadyInProgress, .operationInProgress, .operationCanceled, .ownerDead,
  .stateNotRecoverable]

/-! ## Numbers -/

/-- The number of a condition (`Errc::raw`): its number in the Linux system interface,
0 for `success` and -1 for `unknown`. -/
def number : Condition → Int
  | .success => 0
  | .unknown => -1
  | .operationNotPermitted => 1
  | .noSuchFileOrDirectory => 2
  | .noSuchProcess => 3
  | .interrupted => 4
  | .ioError => 5
  | .noSuchDeviceOrAddress => 6
  | .argumentListTooLong => 7
  | .executableFormatError => 8
  | .badFileDescriptor => 9
  | .noChildProcess => 10
  | .resourceUnavailableTryAgain => 11
  | .notEnoughMemory => 12
  | .permissionDenied => 13
  | .badAddress => 14
  | .resourceBusy => 16
  | .fileExists => 17
  | .crossDeviceLink => 18
  | .noSuchDevice => 19
  | .notADirectory => 20
  | .isADirectory => 21
  | .invalidArgument => 22
  | .tooManyFilesOpenInSystem => 23
  | .tooManyFilesOpen => 24
  | .inappropriateIoControlOperation => 25
  | .textFileBusy => 26
  | .fileTooLarge => 27
  | .noSpaceOnDevice => 28
  | .invalidSeek => 29
  | .readOnlyFileSystem => 30
  | .tooManyLinks => 31
  | .brokenPipe => 32
  | .argumentOutOfDomain => 33
  | .resultOutOfRange => 34
  | .resourceDeadlockWouldOccur => 35
  | .filenameTooLong => 36
  | .noLockAvailable => 37
  | .functionNotSupported => 38
  | .directoryNotEmpty => 39
  | .tooManySymbolicLinkLevels => 40
  | .noMessage => 42
  | .identifierRemoved => 43
  | .noLink => 67
  | .protocolError => 71
  | .badMessage => 74
  | .valueTooLarge => 75
  | .illegalByteSequence => 84
  | .notASocket => 88
  | .destinationAddressRequired => 89
  | .messageSize => 90
  | .wrongProtocolType => 91
  | .noProtocolOption => 92
  | .protocolNotSupported => 93
  | .notSupported => 95
  | .addressFamilyNotSupported => 97
  | .addressInUse => 98
  | .addressNotAvailable => 99
  | .networkDown => 100
  | .networkUnreachable => 101
  | .networkReset => 102
  | .connectionAborted => 103
  | .connectionReset => 104
  | .noBufferSpace => 105
  | .alreadyConnected => 106
  | .notConnected => 107
  | .timedOut => 110
  | .connectionRefused => 111
  | .hostUnreachable => 113
  | .connectionAlreadyInProgress => 114
  | .operationInProgress => 115
  | .operationCanceled => 125
  | .ownerDead => 130
  | .stateNotRecoverable => 131

/-- The condition with a given number, found by searching the list (`Errc::from_raw`). -/
def ofNumber? (n : Int) : Option Condition :=
  all.find? (fun c => c.number == n)

/-- The one condition that counts as success (`Errc::is_success`). -/
def isSuccess (c : Condition) : Bool :=
  c == .success

/-! ## Names -/

/-- The name under which a condition is shown and stored. -/
def name : Condition → String
  | .success => "Success"
  | .unknown => "Unknown"
  | .operationNotPermitted => "OperationNotPermitted"
  | .noSuchFileOrDirectory => "NoSuchFileOrDirectory"
  | .noSuchProcess => "NoSuchProcess"
  | .interrupted => "Interrupted"
  | .ioError => "IoError"
  | .noSuchDeviceOrAddress => "NoSuchDeviceOrAddress"
  | .argumentListTooLong => "ArgumentListTooLong"
  | .executableFormatError => "ExecutableFormatError"
  | .badFileDescriptor => "BadFileDescriptor"
  | .noChildProcess => "NoChildProcess"
  | .resourceUnavailableTryAgain => "ResourceUnavailableTryAgain"
  | .notEnoughMemory => "NotEnoughMemory"
  | .permissionDenied => "PermissionDenied"
  | .badAddress => "BadAddress"
  | .resourceBusy => "ResourceBusy"
  | .fileExists => "FileExists"
  | .crossDeviceLink => "CrossDeviceLink"
  | .noSuchDevice => "NoSuchDevice"
  | .notADirectory => "NotADirectory"
  | .isADirectory => "IsADirectory"
  | .invalidArgument => "InvalidArgument"
  | .tooManyFilesOpenInSystem => "TooManyFilesOpenInSystem"
  | .tooManyFilesOpen => "TooManyFilesOpen"
  | .inappropriateIoControlOperation => "InappropriateIoControlOperation"
  | .textFileBusy => "TextFileBusy"
  | .fileTooLarge => "FileTooLarge"
  | .noSpaceOnDevice => "NoSpaceOnDevice"
  | .invalidSeek => "InvalidSeek"
  | .readOnlyFileSystem => "ReadOnlyFileSystem"
  | .tooManyLinks => "TooManyLinks"
  | .brokenPipe => "BrokenPipe"
  | .argumentOutOfDomain => "ArgumentOutOfDomain"
  | .resultOutOfRange => "ResultOutOfRange"
  | .resourceDeadlockWouldOccur => "ResourceDeadlockWouldOccur"
  | .filenameTooLong => "FilenameTooLong"
  | .noLockAvailable => "NoLockAvailable"
  | .functionNotSupported => "FunctionNotSupported"
  | .directoryNotEmpty => "DirectoryNotEmpty"
  | .tooManySymbolicLinkLevels => "TooManySymbolicLinkLevels"
  | .noMessage => "NoMessage"
  | .identifierRemoved => "IdentifierRemoved"
  | .noLink => "NoLink"
  | .protocolError => "ProtocolError"
  | .badMessage => "BadMessage"
  | .valueTooLarge => "ValueTooLarge"
  | .illegalByteSequence => "IllegalByteSequence"
  | .notASocket => "NotASocket"
  | .destinationAddressRequired => "DestinationAddressRequired"
  | .messageSize => "MessageSize"
  | .wrongProtocolType => "WrongProtocolType"
  | .noProtocolOption => "NoProtocolOption"
  | .protocolNotSupported => "ProtocolNotSupported"
  | .notSupported => "NotSupported"
  | .addressFamilyNotSupported => "AddressFamilyNotSupported"
  | .addressInUse => "AddressInUse"
  | .addressNotAvailable => "AddressNotAvailable"
  | .networkDown => "NetworkDown"
  | .networkUnreachable => "NetworkUnreachable"
  | .networkReset => "NetworkReset"
  | .connectionAborted => "ConnectionAborted"
  | .connectionReset => "ConnectionReset"
  | .noBufferSpace => "NoBufferSpace"
  | .alreadyConnected => "AlreadyConnected"
  | .notConnected => "NotConnected"
  | .timedOut => "TimedOut"
  | .connectionRefused => "ConnectionRefused"
  | .hostUnreachable => "HostUnreachable"
  | .connectionAlreadyInProgress => "ConnectionAlreadyInProgress"
  | .operationInProgress => "OperationInProgress"
  | .operationCanceled => "OperationCanceled"
  | .ownerDead => "OwnerDead"
  | .stateNotRecoverable => "StateNotRecoverable"

/-- The condition with a given name; the spelling has to agree in every letter. -/
def ofName? (s : String) : Option Condition :=
  all.find? (fun c => c.name == s)

/-! ## The tables are complete -/

/-- **Numbers are read back.** The search by number finds every condition under
its own number, so no two conditions share one. -/
@[simp] theorem ofNumber?_number (c : Condition) : ofNumber? c.number = some c := by
  cases c <;> rfl

/-- The list leaves no condition out. -/
theorem mem_all (c : Condition) : c ∈ all :=
  List.mem_of_find?_eq_some (ofNumber?_number c)

private theorem forall_ofName?_name : ∀ c ∈ all, ofName? c.name = some c := by
  decide +kernel

/-- **Names are read back.** -/
@[simp] theorem ofName?_name (c : Condition) : ofName? c.name = some c :=
  forall_ofName?_name c (mem_all c)

theorem number_inj {a b : Condition} (h : a.number = b.number) : a = b := by
  have hread : ofNumber? a.number = ofNumber? b.number := congrArg ofNumber? h
  simpa only [ofNumber?_number, Option.some.injEq] using hread

/-- The search by number finds the condition that has the number, and nothing else. -/
theorem ofNumber?_eq_some_iff {n : Int} {c : Condition} : ofNumber? n = some c ↔ c.number = n := by
  constructor
  · intro h
    rw [ofNumber?] at h
    have hmatch := List.find?_some h
    simpa only [beq_iff_eq] using hmatch
  · rintro rfl
    exact ofNumber?_number c

/-- The search by number fails where no condition has the number. -/
theorem ofNumber?_eq_none_iff {n : Int} : ofNumber? n = none ↔ ∀ c : Condition, c.number ≠ n := by
  rw [Option.eq_none_iff_forall_ne_some]
  simp only [ne_eq, ofNumber?_eq_some_iff]

/-- The numbers of the conditions have room in thirty-two bits with sign. -/
theorem number_lt (c : Condition) : c.number < 0x80000000 := by
  cases c <;> decide

/-- A number without sign is not that of the unknown condition. -/
theorem ne_unknown_of_number {c : Condition} {n : Nat} (h : c.number = n) : c ≠ .unknown := by
  rintro rfl
  rw [number] at h
  omega

/-! ## Order

Conditions are ordered by number, so `unknown` comes before `success`. -/

instance : Ord Condition where
  compare a b := compare a.number b.number

/-- The larger of two conditions. -/
def larger (a b : Condition) : Condition :=
  if b.number < a.number then a else b

/-- The conditions of a list in ascending order; one that occurs twice is kept
twice. -/
def sorted (cs : List Condition) : List Condition :=
  cs.mergeSort (fun a b => a.number ≤ b.number)

end Condition

end TaggedStatus
