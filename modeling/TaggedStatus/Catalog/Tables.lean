/-
Rules that are read from tables, and the setting of the catalogue.

Two domains of the catalogue, `t0` and `t1`, have no rules of their own. Each
looks up in a table which of its values are success, which condition comes
nearest to a value and which statuses a value recognises; and the tables are the
outside state of the catalogue, so these domains can be made to change their
mind, to contradict themselves and to recognise anything.

What a table recognises is given by patterns. A pattern lists things to be found
in the other status, and matches when all of them are found; an empty pattern
matches everything. One of them is a question back: does the other status
recognise a certain generic condition?
-/
import TaggedStatus.Catalog.Values
import TaggedStatus.Status

set_option autoImplicit false

namespace TaggedStatus.Catalog

/-- What a status has to show in order to be recognised. Absent items ask for
nothing. -/
structure Pattern where
  /-- The name of the domain. -/
  name : Option String
  /-- The nearest generic condition. -/
  condition : Option Condition
  /-- Success, or not. -/
  success : Option Bool
  int64 : Option Int64
  word16 : Option UInt16
  word32 : Option UInt32
  text : Option String
  /-- A generic condition that the other side recognises. -/
  asks : Option Condition

/-- The rules of one table domain. -/
structure Table where
  /-- The values that are success. -/
  success : List Int64
  /-- The conditions nearest to values; the first that is listed counts. -/
  conditions : List (Int64 × Condition)
  /-- Which statuses a value recognises. -/
  rules : List (Int64 × Pattern)
  /-- Does the domain leave out what it would recognise by default? -/
  noDefault : Bool

/-- The table without entries. -/
def Table.empty : Table where
  success := []
  conditions := []
  rules := []
  noDefault := false

/-- The two tables. -/
structure Tables where
  t0 : Table
  t1 : Table

/-- Both tables without entries. -/
def Tables.empty : Tables := ⟨.empty, .empty⟩

/-- The setting of the catalogue: the types of `Values`, and the two tables for
an outside state. -/
def setting : Setting where
  Ambient := Tables
  Kind := Kind
  decideKind := inferInstance
  Carrier := Kind.Carrier
  format := Kind.format

/-- A type of the catalogue, as a type of values. -/
abbrev type (k : Kind) : ValueType setting := .other k

/-! ## Matching -/

/-- Does the other side recognise a generic condition? It can only be asked where
the view leaves room for a question. -/
def asksBack (c : Condition) : {depth : Nat} → View setting depth → Bool
  | 0, _ => false
  | depth + 1, view => view.ask ((Status.generic c).view depth)

/-- The value, if it is of a type of the catalogue's own. -/
def heldAs (face : Face setting) (k : Kind) : Option k.Carrier :=
  face.valueAs (type k)

/-- Does a status show what a pattern lists? -/
def Pattern.matches (p : Pattern) {depth : Nat} (view : View setting depth) : Bool :=
  let face := view.face
  p.name.all (fun s => face.name == s)
    && p.condition.all (fun c => face.condition == c)
    && p.success.all (fun b => face.success == b)
    && p.int64.all (fun n => heldAs face .int64 == some n)
    && p.word16.all (fun n => heldAs face .word16 == some n)
    && p.word32.all (fun n => heldAs face .word32 == some n)
    && p.text.all (fun s => heldAs face .text == some s)
    && p.asks.all (fun c => asksBack c view)

namespace Table

/-- The condition that a table gives for a value. -/
def condition (t : Table) (v : Int64) : Condition :=
  (t.conditions.lookup v).getD .unknown

/-- Does the table have a rule by which a value recognises a status? -/
def recognises (t : Table) (v : Int64) {depth : Nat} (view : View setting depth) : Bool :=
  t.rules.any (fun rule => rule.1 == v && rule.2.matches view)

end Table

/-- The domain of a table. -/
def tableDomain (id : DomainId) (name : String) (table : Tables → Table) : Domain setting where
  id := id
  name := name
  tag := "TableDomain"
  type := type .int64
  success amb (v : Int64) := (table amb).success.contains v
  condition amb (v : Int64) := (table amb).condition v
  recognises amb (v : Int64) _ view :=
    (table amb).recognises v view
      || (!(table amb).noDefault
            && Domain.defaultRule id (type .int64) v ((table amb).condition v) view.face)

end TaggedStatus.Catalog
