/-
Values that are built from something simpler.

A value may be given as an argument of a narrower type: a small integer where a
larger one is kept, a truth value as zero or one, a character as its number or
as a text of one letter, an error kind as its condition. Every argument keeps its
meaning, so an argument is only taken where the type of the values has room for
all arguments of its kind.
-/
import TaggedStatus.Catalog.Tables
import TaggedStatus.IoError

set_option autoImplicit false

namespace TaggedStatus.Catalog

/-- Something from which a value is built. -/
inductive Argument where
  | uint8 (n : UInt8)
  | uint16 (n : UInt16)
  | uint32 (n : UInt32)
  | int8 (n : Int8)
  | int16 (n : Int16)
  | int32 (n : Int32)
  | int64 (n : Int64)
  | flag (b : Bool)
  | char (c : Char)
  | text (s : String)
  | triple (a b c : UInt32)
  | condition (c : Condition)
  | kind (k : IoError.Kind)

namespace Argument

/-- The argument as a whole number, if it stands for one. -/
def num? : Argument → Option Int
  | .uint8 n => some n.toNat
  | .uint16 n => some n.toNat
  | .uint32 n => some n.toNat
  | .int8 n => some n.toInt
  | .int16 n => some n.toInt
  | .int32 n => some n.toInt
  | .int64 n => some n.toInt
  | .flag b => some b.toNat
  | _ => none

/-- The argument as a value of sixteen bits without sign. -/
def toWord16? : Argument → Option UInt16
  | .uint8 n => some n.toUInt16
  | .uint16 n => some n
  | .flag b => some b.toUInt16
  | _ => none

/-- The argument as a value of thirty-two bits without sign. -/
def toWord32? : Argument → Option UInt32
  | .uint8 n => some n.toUInt32
  | .uint16 n => some n.toUInt32
  | .uint32 n => some n
  | .flag b => some b.toUInt32
  | .char c => some c.val
  | _ => none

/-- The argument as a value of thirty-two bits with sign. -/
def toInt32? : Argument → Option Int32
  | .uint32 _ | .int64 _ => none
  | arg => arg.num?.map Int32.ofInt

/-- The argument as a value of sixty-four bits with sign. -/
def toInt64? (arg : Argument) : Option Int64 :=
  arg.num?.map Int64.ofInt

/-- The argument as a text. -/
def toText? : Argument → Option String
  | .char c => some (String.singleton c)
  | .text s => some s
  | _ => none

/-- The argument as a condition. -/
def toCondition? : Argument → Option Condition
  | .condition c => some c
  | .kind k => some k.condition
  | _ => none

/-- The value of a type that an argument stands for. -/
def value? (arg : Argument) : (T : ValueType setting) → Option T.Carrier
  | .condition => arg.toCondition?
  | .other .word16 => arg.toWord16?
  | .other .word32 => arg.toWord32?
  | .other .int32 => arg.toInt32?
  | .other .int64 => arg.toInt64?
  | .other .flag => match arg with
      | .flag b => some b
      | _ => none
  | .other .text => arg.toText?
  | .other .triple => match arg with
      | .triple a b c => some (a, b, c)
      | _ => none
  | .other _ => none

end Argument

end TaggedStatus.Catalog
