/-!
# Base64

The standard alphabet with padding. A group of three bytes is written as four symbols, and the
last group may have one or two bytes, which `=` fills up. `decode` takes exactly the texts that
`encode` writes, and says of any other text what is wrong with it and where.
-/

namespace ArtifactTrust.Text.Base64

set_option autoImplicit false

inductive Fault where
  /-- A byte that does not belong where it stands. -/
  | symbol (byte : UInt8) (offset : Nat)
  /-- A last symbol with bits that no byte of the content holds. -/
  | lastSymbol (byte : UInt8) (offset : Nat)
  /-- A last group of one symbol. -/
  | length (size : Nat)
  /-- A last group that is not filled up. -/
  | padding
deriving DecidableEq, Repr

def Fault.message : Fault → String
  | symbol byte offset =>
    "Invalid symbol " ++ toString byte.toNat ++ ", offset " ++ toString offset ++ "."
  | lastSymbol byte offset =>
    "Invalid last symbol " ++ toString byte.toNat ++ ", offset " ++ toString offset ++ "."
  | length size => "Invalid input length: " ++ toString size
  | padding => "Invalid padding"

def pad : UInt8 := 61

def symbol (n : Nat) : UInt8 :=
  if n < 26 then UInt8.ofNat (65 + n)
  else if n < 52 then UInt8.ofNat (71 + n)
  else if n < 62 then UInt8.ofNat (n - 4)
  else if n = 62 then 43
  else 47

def value? (b : UInt8) : Option Nat :=
  let n := b.toNat
  if 65 ≤ n ∧ n ≤ 90 then some (n - 65)
  else if 97 ≤ n ∧ n ≤ 122 then some (n - 71)
  else if 48 ≤ n ∧ n ≤ 57 then some (n + 4)
  else if n = 43 then some 62
  else if n = 47 then some 63
  else none

def value (b : UInt8) (offset : Nat) : Except Fault Nat :=
  match value? b with
  | some n => .ok n
  | none => .error (.symbol b offset)

def encode : List UInt8 → List UInt8
  | [] => []
  | [a] => [symbol (a.toNat / 4), symbol (a.toNat % 4 * 16), pad, pad]
  | [a, b] =>
    [symbol (a.toNat / 4), symbol (a.toNat % 4 * 16 + b.toNat / 16),
      symbol (b.toNat % 16 * 4), pad]
  | a :: b :: c :: rest =>
    symbol (a.toNat / 4) :: symbol (a.toNat % 4 * 16 + b.toNat / 16) ::
      symbol (b.toNat % 16 * 4 + c.toNat / 64) :: symbol (c.toNat % 64) :: encode rest

def firstByte (a b : Nat) : UInt8 := UInt8.ofNat (a * 4 + b / 16)

def secondByte (b c : Nat) : UInt8 := UInt8.ofNat (b % 16 * 16 + c / 4)

def thirdByte (c d : Nat) : UInt8 := UInt8.ofNat (c % 4 * 64 + d)

/-- The bytes of a last group of four symbols, of which two are at hand as numbers. -/
def decodeFilled (offset a b : Nat) (second third fourth : UInt8) : Except Fault (List UInt8) :=
  if third = pad then
    if fourth = pad then
      if b % 16 = 0 then .ok [firstByte a b] else .error (.lastSymbol second (offset + 1))
    else .error (.symbol pad (offset + 2))
  else do
    let c ← value third (offset + 2)
    if fourth = pad then
      if c % 4 = 0 then .ok [firstByte a b, secondByte b c]
      else .error (.lastSymbol third (offset + 2))
    else
      let d ← value fourth (offset + 3)
      return [firstByte a b, secondByte b c, thirdByte c d]

/-- The bytes of a group that is full, for one that others follow. -/
def decodeFull (offset : Nat) (first second third fourth : UInt8) : Except Fault (List UInt8) := do
  let a ← value first offset
  let b ← value second (offset + 1)
  let c ← value third (offset + 2)
  let d ← value fourth (offset + 3)
  return [firstByte a b, secondByte b c, thirdByte c d]

def decodeFrom (offset : Nat) : List UInt8 → Except Fault (List UInt8)
  | [] => .ok []
  | [first] => do
    let _ ← value first offset
    .error (.length (offset + 1))
  | [first, second] => do
    let _ ← value first offset
    let _ ← value second (offset + 1)
    .error .padding
  | [first, second, third] => do
    let _ ← value first offset
    let _ ← value second (offset + 1)
    if third ≠ pad then let _ ← value third (offset + 2)
    .error .padding
  | [first, second, third, fourth] => do
    let a ← value first offset
    let b ← value second (offset + 1)
    decodeFilled offset a b second third fourth
  | first :: second :: third :: fourth :: next :: rest => do
    let bytes ← decodeFull offset first second third fourth
    let others ← decodeFrom (offset + 4) (next :: rest)
    return bytes ++ others

/-- The byte behind the last full group, when it is the only one there and can be neither a
symbol nor padding. It is reported before any other fault. -/
def strayEnd? (text : List UInt8) : Option UInt8 :=
  if text.length % 4 = 1 then
    text.getLast?.filter fun b => b ≠ pad && (value? b).isNone
  else none

def decode (text : List UInt8) : Except Fault (List UInt8) :=
  match strayEnd? text with
  | some b => .error (.symbol b (text.length - 1))
  | none => decodeFrom 0 text

def encoded (bytes : List UInt8) : String :=
  String.ofList ((encode bytes).map fun b => Char.ofNat b.toNat)

/-- `decode` on a string, whose offsets count bytes. -/
def decoded (text : String) : Except Fault (List UInt8) := decode text.toUTF8.data.toList

end ArtifactTrust.Text.Base64
