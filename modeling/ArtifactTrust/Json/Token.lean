/-!
# Tokens of JSON documents

`tokens?` cuts the bytes of a document into tokens, one byte at a time, and refuses bytes
that no document holds there. The content of a text is kept as the bytes that spell it. An
escape for half of a surrogate pair without its other half is written in three bytes as if it
were a character, so such a text, like one whose bytes are not UTF-8, spells no string.
-/

namespace ArtifactTrust.Json

set_option autoImplicit false

inductive Token where
  | openArray
  | closeArray
  | openObject
  | closeObject
  | comma
  | colon
  | null
  | bool (b : Bool)
  /-- A number that is written with digits alone. -/
  | natural (n : Nat)
  /-- A number with a sign, a fraction or an exponent. -/
  | number (lexeme : List UInt8)
  | text (content : List UInt8)
deriving DecidableEq, Repr

/-- What stands between the quotes of a text: bytes, and UTF-16 units from escapes. -/
inductive Piece where
  | byte (b : UInt8)
  | unit (u : Nat)
deriving DecidableEq, Repr

def unitBytes (u : Nat) : List UInt8 :=
  if u < 0x80 then [UInt8.ofNat u]
  else if u < 0x800 then [UInt8.ofNat (0xc0 + u / 0x40), UInt8.ofNat (0x80 + u % 0x40)]
  else [UInt8.ofNat (0xe0 + u / 0x1000), UInt8.ofNat (0x80 + u / 0x40 % 0x40),
    UInt8.ofNat (0x80 + u % 0x40)]

/-- The bytes of the character that a surrogate pair stands for. -/
def pairBytes (high low : Nat) : List UInt8 :=
  let n := 0x10000 + (high - 0xd800) * 0x400 + (low - 0xdc00)
  [UInt8.ofNat (0xf0 + n / 0x40000), UInt8.ofNat (0x80 + n / 0x1000 % 0x40),
    UInt8.ofNat (0x80 + n / 0x40 % 0x40), UInt8.ofNat (0x80 + n % 0x40)]

def assemble : List Piece → List UInt8
  | [] => []
  | .byte b :: rest => b :: assemble rest
  | .unit high :: .unit low :: rest =>
    if 0xd800 ≤ high ∧ high < 0xdc00 ∧ 0xdc00 ≤ low ∧ low < 0xe000 then
      pairBytes high low ++ assemble rest
    else unitBytes high ++ assemble (.unit low :: rest)
  | .unit u :: rest => unitBytes u ++ assemble rest

inductive NumberPart where
  | minus
  | zero
  | digits
  | point
  | fraction
  | exponent
  | exponentSign
  | exponentDigits
deriving DecidableEq, Repr

def NumberPart.complete : NumberPart → Bool
  | zero | digits | fraction | exponentDigits => true
  | _ => false

def NumberPart.next (part : NumberPart) (b : UInt8) : Option NumberPart :=
  let isDigit := 48 ≤ b && b ≤ 57
  let isExponent := b == 101 || b == 69
  match part with
  | minus => if b == 48 then some zero else if isDigit then some digits else none
  | zero => if b == 46 then some point else if isExponent then some exponent else none
  | digits =>
    if isDigit then some digits else if b == 46 then some point
    else if isExponent then some exponent else none
  | point => if isDigit then some fraction else none
  | fraction => if isDigit then some fraction else if isExponent then some exponent else none
  | exponent =>
    if b == 43 || b == 45 then some exponentSign
    else if isDigit then some exponentDigits else none
  | exponentSign => if isDigit then some exponentDigits else none
  | exponentDigits => if isDigit then some exponentDigits else none

def decimalValue (digits : List UInt8) : Nat := digits.foldl (fun n b => 10 * n + (b.toNat - 48)) 0

def numberToken (lexeme : List UInt8) : Token :=
  if lexeme.all fun b => 48 ≤ b && b ≤ 57 then .natural (decimalValue lexeme) else .number lexeme

/-- What is being read; lists are kept with the latest element first. -/
inductive Reading where
  | between
  | number (part : NumberPart) (lexeme : List UInt8)
  | word (rest : List UInt8) (token : Token)
  | text (pieces : List Piece)
  | escape (pieces : List Piece)
  /-- Inside a numeric escape with `missing` digits to come. -/
  | hex (pieces : List Piece) (missing unit : Nat)
deriving Repr

structure Lexing where
  found : List Token
  reading : Reading
deriving Repr

def Lexing.start (found : List Token) (b : UInt8) : Option Lexing :=
  let token (t : Token) : Option Lexing := some ⟨t :: found, .between⟩
  if b == 32 || b == 10 || b == 13 || b == 9 then some ⟨found, .between⟩
  else if b == 91 then token .openArray
  else if b == 93 then token .closeArray
  else if b == 123 then token .openObject
  else if b == 125 then token .closeObject
  else if b == 44 then token .comma
  else if b == 58 then token .colon
  else if b == 34 then some ⟨found, .text []⟩
  else if b == 45 then some ⟨found, .number .minus [b]⟩
  else if b == 48 then some ⟨found, .number .zero [b]⟩
  else if 49 ≤ b && b ≤ 57 then some ⟨found, .number .digits [b]⟩
  else if b == 110 then some ⟨found, .word [117, 108, 108] .null⟩
  else if b == 116 then some ⟨found, .word [114, 117, 101] (.bool true)⟩
  else if b == 102 then some ⟨found, .word [97, 108, 115, 101] (.bool false)⟩
  else none

def escaped? (b : UInt8) : Option UInt8 :=
  if b == 34 || b == 92 || b == 47 then some b
  else if b == 98 then some 8
  else if b == 102 then some 12
  else if b == 110 then some 10
  else if b == 114 then some 13
  else if b == 116 then some 9
  else none

def hexDigit? (b : UInt8) : Option Nat :=
  if 48 ≤ b && b ≤ 57 then some (b.toNat - 48)
  else if 97 ≤ b && b ≤ 102 then some (b.toNat - 87)
  else if 65 ≤ b && b ≤ 70 then some (b.toNat - 55)
  else none

def Lexing.next (s : Lexing) (b : UInt8) : Option Lexing :=
  match s.reading with
  | .between => start s.found b
  | .number part lexeme =>
    match part.next b with
    | some part => some ⟨s.found, .number part (b :: lexeme)⟩
    | none => if part.complete then start (numberToken lexeme.reverse :: s.found) b else none
  | .word rest token =>
    match rest with
    | [] => none
    | [last] => if b == last then some ⟨token :: s.found, .between⟩ else none
    | c :: rest => if b == c then some ⟨s.found, .word rest token⟩ else none
  | .text pieces =>
    if b == 34 then some ⟨.text (assemble pieces.reverse) :: s.found, .between⟩
    else if b == 92 then some ⟨s.found, .escape pieces⟩
    else if b < 32 then none
    else some ⟨s.found, .text (.byte b :: pieces)⟩
  | .escape pieces =>
    if b == 117 then some ⟨s.found, .hex pieces 3 0⟩
    else (escaped? b).map fun c => ⟨s.found, .text (.byte c :: pieces)⟩
  | .hex pieces missing unit =>
    (hexDigit? b).map fun digit =>
      let unit := 16 * unit + digit
      match missing with
      | 0 => ⟨s.found, .text (.unit unit :: pieces)⟩
      | missing + 1 => ⟨s.found, .hex pieces missing unit⟩

/-- The tokens, if nothing is left half read. -/
def Lexing.finish (s : Lexing) : Option (List Token) :=
  match s.reading with
  | .between => some s.found.reverse
  | .number part lexeme =>
    if part.complete then some (numberToken lexeme.reverse :: s.found).reverse else none
  | _ => none

def tokens? (document : List UInt8) : Option (List Token) := do
  (← document.foldlM Lexing.next ⟨[], .between⟩).finish

end ArtifactTrust.Json
