/-
The identity of a domain.

A domain is named by a number of 128 bits that its author picked once and for
all. Two codes are of the same domain exactly when these numbers agree, whatever
the names or the value types of the domains that produced them; so the number
alone carries equality and order, and its text form (`DomainId.Text`) is a way
to write it down and no more.
-/

set_option autoImplicit false

namespace TaggedStatus

/-- The least number of more than 128 bits. -/
def DomainId.limit : Nat := 0x100000000000000000000000000000000

/-- The identity of a domain (`DomainId`): a number of 128 bits. -/
structure DomainId where
  /-- The number. -/
  num : Nat
  num_lt : num < DomainId.limit
  deriving DecidableEq

namespace DomainId

/-- The identity with a number known to be small enough (`DomainId::from_u128`). -/
def ofNum (n : Nat) (h : n < limit := by decide) : DomainId := ⟨n, h⟩

/-- The identity with a given number, if it has no more than 128 bits. -/
def ofNum? (n : Nat) : Option DomainId :=
  if h : n < limit then some ⟨n, h⟩ else none

@[simp] theorem ofNum?_num (id : DomainId) : ofNum? id.num = some id :=
  dif_pos id.num_lt

/-! ## Order -/

instance : Ord DomainId where
  compare a b := compare a.num b.num

/-- The identities of a list in ascending order; one that occurs twice is kept
twice. -/
def sorted (ids : List DomainId) : List DomainId :=
  ids.mergeSort (fun a b => a.num ≤ b.num)

/-- How many different identities a list holds. -/
def countDistinct (ids : List DomainId) : Nat :=
  ids.eraseDups.length

end DomainId

end TaggedStatus
