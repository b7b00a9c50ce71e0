import ArtifactTrust.Json.Printer
import ArtifactTrust.NameMap

/-!
# Reading typed values from JSON

A record is read from an object with its members, or from an array with its fields in order.
Members that the record does not have are passed over, a member that it has may occur once,
and the array form may leave out fields at the end but add none. A field that may be absent
is read by `optional`, one with a fallback by `orDefault`, and any other by `required`.
-/

namespace ArtifactTrust.Json.Value

set_option autoImplicit false

variable {α : Type}

/-- The members with the string that their names spell, if all of them spell one. -/
def namedMembers? : List (List UInt8 × Value) → Option (List (String × Value))
  | [] => some []
  | (name, v) :: rest => do
    let name ← string? name
    let rest ← namedMembers? rest
    return (name, v) :: rest

/-- The values of the fields of a record, each with its value if it is given. -/
def fields? (names : List String) : Value → Option (List (Option Value))
  | .object members => do
    let members ← namedMembers? members
    if names.all fun name => (members.filter (·.1 = name)).length ≤ 1 then
      some (names.map fun name => List.lookup name members)
    else none
  | .array items =>
    if items.length ≤ names.length then
      some (items.map some ++ List.replicate (names.length - items.length) none)
    else none
  | _ => none

/-- A field that has to be given. -/
def required (read : Value → Option α) (field : Option Value) : Option α := field.bind read

/-- A field that may be absent or null. -/
def optional (read : Value → Option α) : Option Value → Option (Option α)
  | none => some none
  | some .null => some none
  | some v => (read v).map some

/-- A field that may be absent, but not null. -/
def orDefault (fallback : α) (read : Value → Option α) : Option Value → Option α
  | none => some fallback
  | some v => read v

def asString? : Value → Option String
  | .text content => string? content
  | _ => none

def asBool? : Value → Option Bool
  | .bool b => some b
  | _ => none

/-- A natural number below `bound`, written with digits alone. -/
def asNatural? (bound : Nat) : Value → Option Nat
  | .natural n => if n < bound then some n else none
  | _ => none

def asUInt64? (v : Value) : Option UInt64 := (v.asNatural? UInt64.size).map UInt64.ofNat

def asUInt32? (v : Value) : Option UInt32 := (v.asNatural? UInt32.size).map UInt32.ofNat

def asList? (read : Value → Option α) : Value → Option (List α)
  | .array items => items.mapM read
  | _ => none

/-- An object whose members are all texts; of members with one name the last counts. -/
def asLabels? : Value → Option Labels
  | .object members => do
    let members ← namedMembers? members
    let entries ← members.mapM fun (name, v) => do return (name, ← v.asString?)
    return NameMap.ofList entries
  | _ => none

/-- A choice among names: the name as a text, or an object with null under the name. -/
def asName? : Value → Option String
  | .text content => string? content
  | .object [(name, .null)] => string? name
  | _ => none

def ofString (s : String) : Value := .text s.toUTF8.data.toList

def member (name : String) (v : Value) : List UInt8 × Value := (name.toUTF8.data.toList, v)

/-- A member that is left out when there is no value for it. -/
def memberOf? (name : String) (write : α → Value) : Option α → List (List UInt8 × Value)
  | none => []
  | some a => [member name (write a)]

def ofLabels (l : Labels) : Value :=
  .object (l.entries.map fun entry => member entry.1 (ofString entry.2))

def document (v : Value) : ByteArray := ⟨v.render.toArray⟩

end ArtifactTrust.Json.Value
