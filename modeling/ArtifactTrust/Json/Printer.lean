import ArtifactTrust.Json.Value

/-!
# Writing JSON

A value is written without blanks. In texts the quote, the backslash and the control
characters are escaped, by a letter where JSON has one, and every other byte stands for itself.
-/

namespace ArtifactTrust.Json

set_option autoImplicit false

def hexByte (n : Nat) : UInt8 := if n < 10 then UInt8.ofNat (48 + n) else UInt8.ofNat (87 + n)

/-- The bytes that stand for one byte of a text. -/
def escape (b : UInt8) : List UInt8 :=
  if b == 34 || b == 92 then [92, b]
  else if b == 8 then [92, 98]
  else if b == 9 then [92, 116]
  else if b == 10 then [92, 110]
  else if b == 12 then [92, 102]
  else if b == 13 then [92, 114]
  else if b < 32 then [92, 117, 48, 48, hexByte (b.toNat / 16), hexByte (b.toNat % 16)]
  else [b]

def quote (content : List UInt8) : List UInt8 := 34 :: (content.flatMap escape ++ [34])

def digits (n : Nat) : List UInt8 := (toString n).toList.map fun c => UInt8.ofNat c.toNat

namespace Value

mutual

def render : Value → List UInt8
  | null => [110, 117, 108, 108]
  | bool true => [116, 114, 117, 101]
  | bool false => [102, 97, 108, 115, 101]
  | natural n => digits n
  | number lexeme => lexeme
  | text content => quote content
  | array items => 91 :: (renderItems items ++ [93])
  | object members => 123 :: (renderMembers members ++ [125])

def renderItems : List Value → List UInt8
  | [] => []
  | [v] => render v
  | v :: w :: rest => render v ++ 44 :: renderItems (w :: rest)

def renderMembers : List (List UInt8 × Value) → List UInt8
  | [] => []
  | [(name, v)] => quote name ++ 58 :: render v
  | (name, v) :: w :: rest => quote name ++ 58 :: (render v ++ 44 :: renderMembers (w :: rest))

end

end Value

end ArtifactTrust.Json
