import ArtifactTrust.Json.Token

/-!
# JSON values

`Value.parse?` reads a document. It keeps the arrays and objects that are still open on an
explicit stack, so the depth of a document is bounded by nothing but its length. Members of
objects stay in the order of the document, repeated names included.
-/

namespace ArtifactTrust.Json

set_option autoImplicit false

/-- A JSON value. Texts and the names of members are the bytes that spell them. -/
inductive Value where
  | null
  | bool (b : Bool)
  | natural (n : Nat)
  | number (lexeme : List UInt8)
  | text (content : List UInt8)
  | array (items : List Value)
  | object (members : List (List UInt8 × Value))
deriving Repr

/-- An array or object that is still open, with its latest element first. -/
inductive Frame where
  | array (items : List Value)
  /-- An object, with the name of the member whose value is to come. -/
  | object (members : List (List UInt8 × Value)) (name : List UInt8)
deriving Repr

/-- What may come next. -/
inductive Expected where
  | value
  /-- A value, or the end of the array. -/
  | firstItem
  /-- The name of a member, or the end of the object. -/
  | firstName
  | name
  | colon
  /-- A comma, or the end of the innermost open array or object. -/
  | separator
deriving DecidableEq, Repr

inductive Progress where
  | complete (v : Value)
  | within (stack : List Frame) (expected : Expected)
deriving Repr

def Progress.supply (v : Value) : List Frame → Progress
  | [] => .complete v
  | .array items :: stack => .within (.array (v :: items) :: stack) .separator
  | .object members name :: stack => .within (.object ((name, v) :: members) [] :: stack) .separator

def Progress.next : Progress → Token → Option Progress
  | .complete _, _ => none
  | .within stack expected, token =>
    let value (v : Value) : Option Progress :=
      if expected = .value ∨ expected = .firstItem then some (.supply v stack) else none
    let opened (frame : Frame) (first : Expected) : Option Progress :=
      if expected = .value ∨ expected = .firstItem then some (.within (frame :: stack) first)
      else none
    match token with
    | .null => value .null
    | .bool b => value (.bool b)
    | .natural n => value (.natural n)
    | .number lexeme => value (.number lexeme)
    | .openArray => opened (.array []) .firstItem
    | .openObject => opened (.object [] []) .firstName
    | .text content =>
      match expected, stack with
      | .firstName, .object members _ :: stack => some (.within (.object members content :: stack) .colon)
      | .name, .object members _ :: stack => some (.within (.object members content :: stack) .colon)
      | _, _ => value (.text content)
    | .colon => if expected = .colon then some (.within stack .value) else none
    | .comma =>
      match expected, stack with
      | .separator, .array items :: stack => some (.within (.array items :: stack) .value)
      | .separator, .object members _ :: stack => some (.within (.object members [] :: stack) .name)
      | _, _ => none
    | .closeArray =>
      match expected, stack with
      | .separator, .array items :: stack => some (.supply (.array items.reverse) stack)
      | .firstItem, .array items :: stack => some (.supply (.array items.reverse) stack)
      | _, _ => none
    | .closeObject =>
      match expected, stack with
      | .separator, .object members _ :: stack => some (.supply (.object members.reverse) stack)
      | .firstName, .object members _ :: stack => some (.supply (.object members.reverse) stack)
      | _, _ => none

namespace Value

def ofTokens? (tokens : List Token) : Option Value :=
  match tokens.foldlM Progress.next (.within [] .value) with
  | some (.complete v) => some v
  | _ => none

def parse? (document : List UInt8) : Option Value := do ofTokens? (← tokens? document)

/-- The string that a text spells, if it spells one. -/
def string? (content : List UInt8) : Option String := String.fromUTF8? ⟨content.toArray⟩

end Value

end ArtifactTrust.Json
