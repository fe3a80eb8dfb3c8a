/-
The two encodings of a condition: as a number and as a name.

Three tables are kept by hand: the list of the conditions, their numbers and their names. The
two searches go through the list and stop at the first condition that has the number, or the
name, that was asked for. So a condition that is left out of the list would not be found, and
one that shares its number with an earlier one would be taken for that one; each would show
for a single input only.

What rules this out is said once for any key by which the list is searched. If no two
conditions have the same key, the list has one condition at most to be found
(`filter_all_eq_toList`), and since it leaves no condition out, the search finds a condition
exactly under its own key (`find?_all_eq_some_iff`).
-/
import Mathlib.Data.List.Nodup
import TaggedStatus.Condition.Json

set_option autoImplicit false

namespace TaggedStatus.Condition

/-! ## Searching by a key -/

/-- The list has no condition twice. -/
theorem nodup_all : all.Nodup := by
  decide +kernel

section Search

variable {K : Type} [BEq K] [LawfulBEq K] {key : Condition → K}

/-- A search by a key that tells conditions apart finds a condition under its own key, and
nowhere else. -/
theorem find?_all_eq_some_iff (hkey : ∀ a b, key a = key b → a = b) {k : K} {c : Condition} :
    all.find? (fun a => key a == k) = some c ↔ key c = k := by
  constructor
  · intro h
    have hmatch := List.find?_some h
    exact beq_iff_eq.mp hmatch
  · rintro rfl
    cases h : all.find? (fun a => key a == key c) with
    | none =>
        -- The condition itself is in the list.
        have hmiss := List.find?_eq_none.mp h c (mem_all c)
        exact absurd (beq_iff_eq.mpr rfl) hmiss
    | some found =>
        have hmatch := List.find?_some h
        rw [hkey found c (beq_iff_eq.mp hmatch)]

/-- What the search finds is all that there is to be found. -/
theorem filter_all_eq_toList (hkey : ∀ a b, key a = key b → a = b) (k : K) :
    all.filter (fun a => key a == k) = (all.find? (fun a => key a == k)).toList := by
  cases h : all.find? (fun a => key a == k) with
  | none => exact List.filter_eq_nil_iff.mpr (List.find?_eq_none.mp h)
  | some c =>
      have hc : key c = k := (find?_all_eq_some_iff hkey).mp h
      have hsame : ∀ a ∈ all, (key a == k) = (a == c) := by
        intro a _
        rw [Bool.eq_iff_iff, beq_iff_eq, beq_iff_eq, ← hc]
        constructor
        · exact hkey a c
        · exact congrArg key
      rw [List.filter_congr hsame, List.filter_beq,
        List.count_eq_one_of_mem nodup_all (mem_all c)]
      rfl

end Search

/-! ## Numbers -/

/-- The number of a condition goes into thirty-two bits and comes out again. -/
theorem toInt_ofInt_number (c : Condition) : (Int32.ofInt c.number).toInt = c.number := by
  cases c <;> rfl

/-- The search by a number of thirty-two bits. -/
theorem ofNumber?_toInt_eq_some_iff {r : Int32} {c : Condition} :
    ofNumber? r.toInt = some c ↔ Int32.ofInt c.number = r := by
  rw [ofNumber?_eq_some_iff, ← Int32.toInt_inj, toInt_ofInt_number]

/-! ## Names -/

theorem name_inj {a b : Condition} (h : a.name = b.name) : a = b := by
  have hread : ofName? a.name = ofName? b.name := congrArg ofName? h
  simpa only [ofName?_name, Option.some.injEq] using hread

/-- The search by name finds the condition that has the name, and nothing else. -/
theorem ofName?_eq_some_iff {s : String} {c : Condition} : ofName? s = some c ↔ c.name = s :=
  find?_all_eq_some_iff (fun _ _ => name_inj)

/-- A condition is read from its name, or from an object that has its name with null for its
one member, and from nothing else. -/
theorem ofJson?_eq_some_iff {j : Json} {c : Condition} :
    ofJson? j = some c ↔ j = .text c.name ∨ j = .object [(c.name, .null)] := by
  fun_cases ofJson? j with
  | case1 s =>
      rw [ofName?_eq_some_iff, Json.text.injEq, eq_comm]
      simp
  | case2 key =>
      rw [ofName?_eq_some_iff, eq_comm]
      simp
  | case3 _ htext hobject =>
      constructor
      · intro h
        cases h
      · rintro (rfl | rfl)
        · exact (htext c.name rfl).elim
        · exact (hobject c.name rfl).elim

/-! ## Both together -/

/-- **Both encodings are exact inverses.** The search by number finds a condition exactly
under its own number; the number fits thirty-two bits, so that nothing changes if numbers are
taken from there. The list holds every condition once, and for every number as many conditions
as the search finds, so no second one is hidden behind the first. In JSON a condition is read
from its name, by itself or as the one member of an object that is null there, and from no
other value; it is written as its name, and read back from that. -/
theorem encodings_exact :
    (∀ (n : Int) (c : Condition), ofNumber? n = some c ↔ c.number = n)
    ∧ (∀ (r : Int32) (c : Condition), ofNumber? r.toInt = some c ↔ Int32.ofInt c.number = r)
    ∧ (all.Nodup ∧ ∀ c : Condition, c ∈ all)
    ∧ (∀ n : Int, all.filter (fun c => c.number == n) = (ofNumber? n).toList)
    ∧ (∀ (j : Json) (c : Condition),
        ofJson? j = some c ↔ j = .text c.name ∨ j = .object [(c.name, .null)])
    ∧ ∀ c : Condition, c.toJson = .text c.name ∧ ofJson? c.toJson = some c := by
  refine ⟨fun _ _ => ofNumber?_eq_some_iff, fun _ _ => ofNumber?_toInt_eq_some_iff,
    ⟨nodup_all, mem_all⟩, ?_, fun _ _ => ofJson?_eq_some_iff, ?_⟩
  · intro n
    exact filter_all_eq_toList (fun _ _ => number_inj) n
  · intro c
    exact ⟨rfl, ofJson?_eq_some_iff.mpr (.inl rfl)⟩

/-- There is a gap in the numbers between 14 and 16, and reading is by the letter. -/
example :
    ofNumber? 15 = none ∧ ofNumber? 16 = some .resourceBusy
      ∧ ofJson? (.text "resourceBusy") = none := by
  decide +kernel

end TaggedStatus.Condition
