/-
Domain identities in JSON.

An identity is stored as its text. Which texts stand for an identity on the way in
is not decided here: that is up to the reader that a program is linked with, and
the library takes it as it comes. What it relies on is that such a reader reads back
what is shown (`TextReader.read?_text`), and then a stored identity is read back
(`ofJson?_toJson`).
-/
import TaggedStatus.DomainId.Text
import TaggedStatus.Json

set_option autoImplicit false

namespace TaggedStatus.DomainId

/-- A reader of identities, which comes from outside the library (`Deserialize for Uuid`). -/
class TextReader where
  /-- The identity that a text stands for, if it stands for one. -/
  read? : String → Option DomainId
  /-- What is shown is read back. -/
  read?_text : ∀ id : DomainId, read? id.text = some id

/-- The stored form of an identity (`Serialize for DomainId`). -/
def toJson (id : DomainId) : Json :=
  .text id.text

/-- The identity that a stored form stands for (`Deserialize for DomainId`): the one that the
reader finds in a text, and none in any other value. -/
def ofJson? [TextReader] : Json → Option DomainId
  | .text s => TextReader.read? s
  | _ => none

/-- **A stored identity is read back**, whatever else the reader may take. -/
theorem ofJson?_toJson [TextReader] (id : DomainId) : ofJson? id.toJson = some id :=
  TextReader.read?_text id

end TaggedStatus.DomainId
