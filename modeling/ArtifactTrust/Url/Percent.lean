import ArtifactTrust.Text.Hex

/-!
# Percent encoding

A byte that may not stand for itself is written as `%` and two digits. What may stand for
itself depends on the part of the URL; a `%` always may, so encoding twice changes nothing.
-/

namespace ArtifactTrust.Url

set_option autoImplicit false

def upperHexDigit (n : Nat) : Char := if n < 10 then Char.ofNat (48 + n) else Char.ofNat (55 + n)

def percentByte (b : UInt8) : List Char :=
  ['%', upperHexDigit (b.toNat / 16), upperHexDigit (b.toNat % 16)]

/-- The characters with those that `escapes` holds of encoded. -/
def percentEncode (escapes : Char → Bool) (cs : List Char) : List Char :=
  cs.flatMap fun c =>
    if escapes c then (String.ofList [c]).toUTF8.data.toList.flatMap percentByte else [c]

/-- Controls and characters beyond ASCII, which never stand for themselves. -/
def isControl (c : Char) : Bool := c.toNat < 32 || 127 ≤ c.toNat

def fragmentEscapes (c : Char) : Bool :=
  isControl c || c == ' ' || c == '"' || c == '<' || c == '>' || c == Char.ofNat 96

def pathEscapes (c : Char) : Bool :=
  fragmentEscapes c || c == '#' || c == '?' || c == Char.ofNat 123 || c == Char.ofNat 125

def userEscapes (c : Char) : Bool := pathEscapes c || "/:;=@[\\]^|".toList.contains c

def queryEscapes (c : Char) : Bool :=
  isControl c || c == ' ' || c == '"' || c == '#' || c == '<' || c == '>' || c == '\''

/-- What is encoded in the names and values of a query that is a form. -/
def formEscapes (c : Char) : Bool :=
  !(('a' ≤ c && c ≤ 'z') || ('A' ≤ c && c ≤ 'Z') || ('0' ≤ c && c ≤ '9') || c == '*' ||
    c == '-' || c == '.' || c == '_')

/-- The bytes that text with percent encoding stands for; a `%` without two digits behind it
stands for itself. -/
def percentDecode : List Char → List UInt8
  | [] => []
  | '%' :: a :: b :: rest =>
    match Text.hexValue? a, Text.hexValue? b with
    | some high, some low => UInt8.ofNat (16 * high + low) :: percentDecode rest
    | _, _ => 37 :: percentDecode (a :: b :: rest)
  | c :: rest => (String.ofList [c]).toUTF8.data.toList ++ percentDecode rest

end ArtifactTrust.Url
