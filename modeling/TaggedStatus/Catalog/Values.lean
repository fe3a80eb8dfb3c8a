/-
The types of values in the catalogue.

The catalogue is a collection of domains of every sort: domains with values of
no bytes and of as many bytes as there are at all, domains that share an
identity or a type, domains whose rules are read from tables. This module has
the types of their values: machine words, truth values, texts, tuples of words,
a block of bytes, and a number type that breaks the rule that everything equals
itself.
-/
import TaggedStatus.Setting
import TaggedStatus.Text.Quoted

set_option autoImplicit false

namespace TaggedStatus.Catalog

/-! ## Types of their own -/

/-- Thirty-two bytes. -/
structure Block where
  bytes : List UInt8
  length_eq : bytes.length = 32
  deriving DecidableEq

namespace Block

/-- The block of zeros. -/
def zero : Block := ⟨List.replicate 32 0, rfl⟩

/-- Thirty-two bytes as a block; anything else gives the block of zeros. -/
def ofBytes (bs : List UInt8) : Block :=
  if h : bs.length = 32 then ⟨bs, h⟩ else zero

/-- A block is laid out as its bytes. -/
def layout : Layout Block 32 where
  write b := b.bytes
  read := ofBytes
  length_write b := b.length_eq
  read_write b := dif_pos b.length_eq

end Block

/-- A number that equals itself unless it is thirteen. -/
structure Odd where
  number : UInt32
  deriving DecidableEq

/-- The comparison of odd numbers. -/
def Odd.equal (a b : Odd) : Bool :=
  a.number == b.number && a.number != 13

/-! ## Names of the types -/

/-- The types of values in the catalogue, beside the conditions. -/
inductive Kind where
  | word16
  | word32
  | int32
  | int64
  | flag
  | unit
  | text
  | triple
  | span
  | block
  | odd
  deriving DecidableEq, Repr

/-- The values of a type. -/
abbrev Kind.Carrier : Kind → Type
  | .word16 => UInt16
  | .word32 => UInt32
  | .int32 => Int32
  | .int64 => Int64
  | .flag => Bool
  | .unit => Unit
  | .text => String
  | .triple => UInt32 × UInt32 × UInt32
  | .span => UInt64 × UInt64
  | .block => Block
  | .odd => Odd

/-! ## What is known about the types -/

/-- A number as it is shown to a developer. -/
def numberWord (n : Nat) : Outline :=
  .word (toString n)

/-- What is known about a type. Texts are kept outside of a value's own bytes,
so they have a size but no layout. -/
def Kind.format : (k : Kind) → Format k.Carrier
  | .word16 =>
      { equal := fun a b => a == b
        outline := fun a => numberWord a.toNat
        size := 2
        layout := some .uint16
        default := some 0 }
  | .word32 =>
      { equal := fun a b => a == b
        outline := fun a => numberWord a.toNat
        size := 4
        layout := some .uint32
        default := some 0 }
  | .int32 =>
      { equal := fun a b => a == b
        outline := fun a => .word (toString a.toInt)
        size := 4
        layout := some .int32
        default := some 0 }
  | .int64 =>
      { equal := fun a b => a == b
        outline := fun a => .word (toString a.toInt)
        size := 8
        layout := some .int64
        default := some 0 }
  | .flag =>
      { equal := fun a b => a == b
        outline := fun a => .word (if a then "true" else "false")
        size := 1
        layout := some .bool
        default := some false }
  | .unit =>
      { equal := fun _ _ => true
        outline := fun _ => .word "()"
        size := 0
        layout := some .unit
        default := some () }
  | .text =>
      { equal := fun a b => a == b
        outline := fun a => .word (Quoted.quote a)
        size := 24
        layout := none
        default := some "" }
  | .triple =>
      { equal := fun a b => a == b
        outline := fun a =>
          .tuple "" [numberWord a.1.toNat, numberWord a.2.1.toNat, numberWord a.2.2.toNat]
        size := 12
        layout := some (.pair .uint32 (.pair .uint32 .uint32))
        default := some (0, 0, 0) }
  | .span =>
      { equal := fun a b => a == b
        outline := fun a => .tuple "" [numberWord a.1.toNat, numberWord a.2.toNat]
        size := 16
        layout := some (.pair .uint64 .uint64)
        default := some (0, 0) }
  | .block =>
      { equal := fun a b => a == b
        outline := fun a => .list (a.bytes.map fun b => numberWord b.toNat)
        size := 32
        layout := some Block.layout
        default := some Block.zero }
  | .odd =>
      { equal := Odd.equal
        outline := fun a => .tuple "Odd" [numberWord a.number.toNat]
        size := 4
        layout := some (Layout.uint32.along Odd.number Odd.mk (fun _ => rfl))
        default := some ⟨0⟩ }

end TaggedStatus.Catalog
