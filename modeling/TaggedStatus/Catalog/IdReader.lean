/-
The reader of identities in the catalogue.

The library takes its reader of identities from outside (`DomainId.TextReader`), and
nothing that it says of domains, codes and failures depends on which texts that one
takes. To answer a request for an identity there has to be one, and this is the one
that the catalogue brings along. It takes thirty-two hexadecimal digits, in either
letter case: by themselves, in groups, in groups between braces, and in groups after
`urn:uuid:`, which may be in either letter case too. No two of these are of one length,
so the length of a text says how to take it apart.
-/
import TaggedStatus.DomainId.Json
import TaggedStatus.Text.Hex

set_option autoImplicit false

namespace TaggedStatus.Catalog.IdReader

/-! ## Taking a text apart -/

/-- The digits of groups of the given sizes, if there is a hyphen between one group and
the next and nothing else besides. -/
def ungroup? : List Nat → List Char → Option (List Char)
  | [], _ => none
  | [size], cs => if cs.length = size then some cs else none
  | size :: sizes, cs =>
      match cs.drop size with
      | '-' :: rest => (ungroup? sizes rest).map (fun digits => cs.take size ++ digits)
      | _ => none

/-- What stands between braces. -/
def unbrace? : List Char → Option (List Char)
  | '\x7b' :: rest => if rest.getLast? = some '\x7d' then some rest.dropLast else none
  | _ => none

/-- What stands after `urn:uuid:`. -/
def afterUrn? (cs : List Char) : Option (List Char) :=
  if (cs.take 9).map Char.toLower = "urn:uuid:".toList then some (cs.drop 9) else none

/-- What stands where the digits of an identity should be. -/
def digits? (cs : List Char) : Option (List Char) :=
  match cs.length with
  | 32 => some cs
  | 36 => ungroup? DomainId.groups cs
  | 38 => (unbrace? cs).bind (ungroup? DomainId.groups)
  | 45 => (afterUrn? cs).bind (ungroup? DomainId.groups)
  | _ => none

/-- The identity with the given digits. -/
def ofDigits? (digits : List Char) : Option DomainId :=
  (digits.mapM Hex.digitValue?).bind (fun ds => DomainId.ofNum? (Numeral.ofDigits 16 ds))

/-- The identity that a text spells. -/
def read? (s : String) : Option DomainId :=
  (digits? s.toList).bind ofDigits?

/-! ## What is shown is read back -/

open DomainId

/-- How many digits there are in groups of the given sizes. -/
def total : List Nat → Nat
  | [] => 0
  | size :: sizes => size + total sizes

/-- Groups are taken apart as they were put together. -/
theorem ungroup?_hyphenate {sizes : List Nat} {cs : List Char} (hsizes : sizes ≠ [])
    (hlength : cs.length = total sizes) : ungroup? sizes (hyphenate sizes cs) = some cs := by
  fun_induction hyphenate sizes cs with
  | case1 cs => exact absurd rfl hsizes
  | case2 size cs =>
      have hwhole : cs.length = size := hlength
      rw [ungroup?, if_pos hwhole]
  | case3 size sizes cs hmore ih =>
      rw [total] at hlength
      have htake : (cs.take size).length = size := by
        rw [List.length_take]
        omega
      have hdrop : (cs.drop size).length = total sizes := by
        rw [List.length_drop]
        omega
      rw [ungroup?, List.drop_left' htake, List.take_left' htake]
      · simp only [ih hmore hdrop, Option.map_some, List.take_append_drop]
      · exact hmore

/-- The groups in which an identity is shown have thirty-two digits and four hyphens. -/
theorem length_hyphenate_groups {digits : List Char} (h : digits.length = 32) :
    (hyphenate groups digits).length = 36 := by
  simp [hyphenate, groups, h]

/-- The digits that are shown are read as the digits of the number. -/
theorem mapM_digitChars (id : DomainId) :
    id.digitChars.mapM Hex.digitValue? = some (Numeral.digits 16 32 id.num) :=
  Hex.mapM_digitValue?_digitChar fun d hd => Numeral.lt_of_mem_digits (by decide) hd

theorem ofDigits?_digitChars (id : DomainId) : ofDigits? id.digitChars = some id := by
  have hroom : id.num < Numeral.capacity 16 32 := id.num_lt
  rw [ofDigits?, mapM_digitChars, Option.bind_some, Numeral.ofDigits_digits_of_lt hroom,
    ofNum?_num]

/-- **What is shown is read back.** -/
theorem read?_text (id : DomainId) : read? id.text = some id := by
  have hlength : (hyphenate groups id.digitChars).length = 36 :=
    length_hyphenate_groups id.length_digitChars
  have hdigits : digits? (hyphenate groups id.digitChars) = some id.digitChars := by
    rw [digits?, hlength]
    exact ungroup?_hyphenate (by decide) id.length_digitChars
  rw [read?, text, String.toList_ofList, hdigits, Option.bind_some, ofDigits?_digitChars]

/-- Braces and capitals are taken as well, half of a pair of braces is not. -/
example :
    read? "\x7b2F6B9E10-C4D8-4A3B-8E5F-0C7A19D26B02\x7d"
        = some (.ofNum 0x2f6b9e10c4d84a3b8e5f0c7a19d26b02)
      ∧ read? "\x7b2F6B9E10-C4D8-4A3B-8E5F-0C7A19D26B02" = none := by
  decide +kernel

instance : TextReader where
  read? := read?
  read?_text := read?_text

end TaggedStatus.Catalog.IdReader
