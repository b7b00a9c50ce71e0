/-!
# Hexadecimal text

Bytes are written as two lowercase hexadecimal digits each, the high half first.
-/

namespace ArtifactTrust.Text

def hexDigit (n : Nat) : Char :=
  if n < 10 then Char.ofNat (48 + n) else Char.ofNat (87 + n)

def hexValue? (c : Char) : Option Nat :=
  let n := c.toNat
  if 48 ≤ n && n ≤ 57 then some (n - 48)
  else if 97 ≤ n && n ≤ 102 then some (n - 87)
  else if 65 ≤ n && n ≤ 70 then some (n - 55)
  else none

def isLowerHex (c : Char) : Bool :=
  let n := c.toNat
  (48 ≤ n && n ≤ 57) || (97 ≤ n && n ≤ 102)

def digitPairs : List UInt8 → List Char
  | [] => []
  | b :: bs => hexDigit (b.toNat / 16) :: hexDigit (b.toNat % 16) :: digitPairs bs

def hex (bytes : List UInt8) : String := String.ofList (digitPairs bytes)

@[simp] theorem length_digitPairs (bs : List UInt8) : (digitPairs bs).length = 2 * bs.length := by
  induction bs with
  | nil => rfl
  | cons b bs ih => simp only [digitPairs, List.length_cons, ih]; omega

end ArtifactTrust.Text
