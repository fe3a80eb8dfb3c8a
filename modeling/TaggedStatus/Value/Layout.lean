/-
Layouts: how a value is laid out in a fixed number of bytes.

A layout writes a value into exactly `size` bytes and reads a value from any
bytes at all. Reading is only promised to be right for bytes that the same
layout wrote: that is `read_write`, the law on which everything that is said
about erased codes rests. Reading bytes that something else wrote gives some
value of the type and nothing more is known of it, which is why the unchecked
conversion has to be asked for by a caller who knows better.

Layouts of words are little-endian. Larger ones are put together from smaller
ones with `pair` and carried over to other types with `along`.
-/
import TaggedStatus.Numeral

set_option autoImplicit false

namespace TaggedStatus

/-- A way to lay out the values of a type in `size` bytes; what has one is `ErasureSafe`. -/
structure Layout (α : Type) (size : Nat) where
  /-- The bytes of a value. -/
  write : α → List UInt8
  /-- The value that bytes stand for, if they were written by this layout. -/
  read : List UInt8 → α
  length_write : ∀ a, (write a).length = size
  read_write : ∀ a, read (write a) = a

namespace Layout

attribute [simp] length_write read_write

/-! ## Words -/

/-- The lowest `size` bytes of a number, least significant first. -/
def bytesOf (size n : Nat) : List UInt8 :=
  (Numeral.digits 256 size n).reverse.map UInt8.ofNat

/-- The number that bytes stand for, least significant first. -/
def ofBytes (bs : List UInt8) : Nat :=
  Numeral.ofDigits 256 (bs.map UInt8.toNat).reverse

@[simp] theorem length_bytesOf (size n : Nat) : (bytesOf size n).length = size := by
  simp only [bytesOf, List.length_map, List.length_reverse, Numeral.length_digits]

theorem ofBytes_bytesOf {size n : Nat} (h : n < Numeral.capacity 256 size) :
    ofBytes (bytesOf size n) = n := by
  have hbyte : ∀ d ∈ Numeral.digits 256 size n, (UInt8.ofNat d).toNat = d := by
    intro d hd
    have hlt : d < 256 := Numeral.lt_of_mem_digits (by decide) hd
    simpa using Nat.mod_eq_of_lt hlt
  have hdigits : (Numeral.digits 256 size n).map (fun d => (UInt8.ofNat d).toNat)
      = Numeral.digits 256 size n :=
    (List.map_congr_left hbyte).trans (List.map_id' _)
  rw [ofBytes, bytesOf, List.map_map, ← List.map_reverse, List.reverse_reverse]
  exact (congrArg (Numeral.ofDigits 256) hdigits).trans (Numeral.ofDigits_digits_of_lt h)

/-- The layout of a type of words, given the number of a word and the word of a
number. -/
def word {α : Type} (size : Nat) (num : α → Nat) (ofNum : Nat → α)
    (num_lt : ∀ a, num a < Numeral.capacity 256 size) (ofNum_num : ∀ a, ofNum (num a) = a) :
    Layout α size where
  write a := bytesOf size (num a)
  read bs := ofNum (ofBytes bs)
  length_write a := length_bytesOf size (num a)
  read_write a := by rw [ofBytes_bytesOf (num_lt a), ofNum_num]

/-! ## Building layouts from layouts -/

/-- The layout of a type with one value: no bytes. -/
def unit : Layout Unit 0 where
  write _ := []
  read _ := ()
  length_write _ := rfl
  read_write _ := rfl

/-- Carry a layout over to a type whose values go there and back again. -/
def along {α β : Type} {size : Nat} (L : Layout β size) (forth : α → β) (back : β → α)
    (back_forth : ∀ a, back (forth a) = a) : Layout α size where
  write a := L.write (forth a)
  read bs := back (L.read bs)
  length_write a := L.length_write (forth a)
  read_write a := by rw [L.read_write, back_forth]

/-- One value after another. -/
def pair {α β : Type} {m n : Nat} (L : Layout α m) (K : Layout β n) : Layout (α × β) (m + n) where
  write p := L.write p.1 ++ K.write p.2
  read bs := (L.read (bs.take m), K.read (bs.drop m))
  length_write p := by rw [List.length_append, L.length_write, K.length_write]
  read_write p := by
    have hlen : (L.write p.1).length = m := L.length_write p.1
    rw [List.take_left' hlen, List.drop_left' hlen, L.read_write, K.read_write]

/-! ## The machine words -/

/-- Sixteen bits without sign. -/
def uint16 : Layout UInt16 2 :=
  word 2 UInt16.toNat UInt16.ofNat (fun a => a.toNat_lt) (fun _ => UInt16.ofNat_toNat)

/-- Thirty-two bits without sign. -/
def uint32 : Layout UInt32 4 :=
  word 4 UInt32.toNat UInt32.ofNat (fun a => a.toNat_lt) (fun _ => UInt32.ofNat_toNat)

/-- Sixty-four bits without sign. -/
def uint64 : Layout UInt64 8 :=
  word 8 UInt64.toNat UInt64.ofNat (fun a => a.toNat_lt) (fun _ => UInt64.ofNat_toNat)

/-- Thirty-two bits with sign, in two's complement. -/
def int32 : Layout Int32 4 :=
  uint32.along Int32.toUInt32 UInt32.toInt32 (fun _ => rfl)

/-- Sixty-four bits with sign, in two's complement. -/
def int64 : Layout Int64 8 :=
  uint64.along Int64.toUInt64 UInt64.toInt64 (fun _ => rfl)

/-- A truth value in one byte. -/
def bool : Layout Bool 1 :=
  word 1 Bool.toNat (fun n => n != 0) (fun a => by cases a <;> decide) (fun a => by cases a <;> rfl)

end Layout

end TaggedStatus
