/-!
# Lossy UTF-8

Text is read from bytes of any kind: a sequence of bytes that is the start of a character but
not all of it, or that starts none, reads as one replacement character.
-/

namespace ArtifactTrust.Text

set_option autoImplicit false

def replacement : Char := '\ufffd'

/-- The start of a character of several bytes. -/
structure Partial where
  bits : Nat
  missing : Nat
  /-- The least next byte that goes on with the character. -/
  least : Nat
  /-- The greatest next byte that goes on with the character. -/
  greatest : Nat
deriving DecidableEq, Repr

/-- What a byte starts: a character, part of one, or nothing. -/
def startOf (b : UInt8) : Option (Char ⊕ Partial) :=
  let n := b.toNat
  if n < 0x80 then some (.inl (Char.ofNat n))
  else if 0xc2 ≤ n ∧ n ≤ 0xdf then some (.inr ⟨n - 0xc0, 1, 0x80, 0xbf⟩)
  else if 0xe0 ≤ n ∧ n ≤ 0xef then
    some (.inr ⟨n - 0xe0, 2, if n = 0xe0 then 0xa0 else 0x80, if n = 0xed then 0x9f else 0xbf⟩)
  else if 0xf0 ≤ n ∧ n ≤ 0xf4 then
    some (.inr ⟨n - 0xf0, 3, if n = 0xf0 then 0x90 else 0x80, if n = 0xf4 then 0x8f else 0xbf⟩)
  else none

/-- The characters behind the start of one. -/
def lossyFrom : Option Partial → List UInt8 → List Char
  | none, [] => []
  | some _, [] => [replacement]
  | none, b :: rest =>
    match startOf b with
    | some (.inl c) => c :: lossyFrom none rest
    | some (.inr p) => lossyFrom (some p) rest
    | none => replacement :: lossyFrom none rest
  | some p, b :: rest =>
    if p.least ≤ b.toNat ∧ b.toNat ≤ p.greatest then
      let bits := p.bits * 64 + (b.toNat - 0x80)
      if p.missing = 1 then Char.ofNat bits :: lossyFrom none rest
      else lossyFrom (some ⟨bits, p.missing - 1, 0x80, 0xbf⟩) rest
    else
      match startOf b with
      | some (.inl c) => replacement :: c :: lossyFrom none rest
      | some (.inr q) => replacement :: lossyFrom (some q) rest
      | none => replacement :: replacement :: lossyFrom none rest

def lossy (content : ByteArray) : String := String.ofList (lossyFrom none content.data.toList)

end ArtifactTrust.Text
