/-
Numerals with a fixed count of places, in any base.

`digits` gives the lowest places of a number, the most significant first and with
leading zeros; `ofDigits` gives back the number. With `places` places in base
`base` there are `capacity base places` numerals, and a number below that is read
back exactly (`ofDigits_digits_of_lt`). Text in base sixteen and words of bytes
are both written this way.
-/

set_option autoImplicit false

namespace TaggedStatus.Numeral

/-- The number of numerals with so many places. -/
def capacity (base : Nat) : (places : Nat) → Nat
  | 0 => 1
  | places + 1 => base * capacity base places

/-- The lowest places of a number, the most significant first. -/
def digits (base : Nat) : (places : Nat) → (n : Nat) → List Nat
  | 0, _ => []
  | places + 1, n => digits base places (n / base) ++ [n % base]

/-- The number that digits spell, the most significant first. -/
def ofDigits (base : Nat) (ds : List Nat) : Nat :=
  ds.foldl (fun n d => base * n + d) 0

@[simp] theorem ofDigits_nil (base : Nat) : ofDigits base [] = 0 := rfl

@[simp] theorem ofDigits_concat (base : Nat) (ds : List Nat) (d : Nat) :
    ofDigits base (ds ++ [d]) = base * ofDigits base ds + d := by
  simp only [ofDigits, List.foldl_append, List.foldl_cons, List.foldl_nil]

@[simp] theorem length_digits (base places n : Nat) : (digits base places n).length = places := by
  induction places generalizing n with
  | zero => rfl
  | succ places ih => simp only [digits, List.length_append, ih, List.length_singleton]

theorem lt_of_mem_digits {base places n d : Nat} (hbase : 0 < base)
    (h : d ∈ digits base places n) : d < base := by
  induction places generalizing n with
  | zero => simp [digits] at h
  | succ places ih =>
      simp only [digits, List.mem_append, List.mem_singleton] at h
      rcases h with h | rfl
      · exact ih h
      · exact Nat.mod_lt n hbase

/-- Digits are read back, up to the places that there was no room for. -/
theorem ofDigits_digits (base places n : Nat) :
    ofDigits base (digits base places n) = n % capacity base places := by
  induction places generalizing n with
  | zero => simp only [digits, ofDigits_nil, capacity, Nat.mod_one]
  | succ places ih =>
      rw [digits, ofDigits_concat, ih, capacity, Nat.mod_mul, Nat.add_comm]

/-- **Numerals are read back** when they have room for the number. -/
theorem ofDigits_digits_of_lt {base places n : Nat} (h : n < capacity base places) :
    ofDigits base (digits base places n) = n := by
  rw [ofDigits_digits, Nat.mod_eq_of_lt h]

end TaggedStatus.Numeral
