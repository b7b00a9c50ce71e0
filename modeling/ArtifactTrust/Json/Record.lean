import ArtifactTrust.Json.Fields

/-!
# Records in JSON documents

A type is a record when its values are read from JSON values and written as JSON values.
`decode?` and `encode` are the same for whole documents.
-/

namespace ArtifactTrust.Json

set_option autoImplicit false

/-- Types whose values JSON documents hold. -/
class Record (α : Type) where
  /-- The value that a JSON value stands for. -/
  ofValue? : Value → Option α
  /-- The JSON value that stands for a value. -/
  toValue : α → Value

variable {α : Type} [Record α]

def decode? (document : ByteArray) : Option α := do
  Record.ofValue? (← Value.parse? document.data.toList)

def encode (a : α) : ByteArray := (Record.toValue a).document

end ArtifactTrust.Json
