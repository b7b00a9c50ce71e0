/-!
# Punycode

The encoding of characters beyond ASCII in the labels of a domain. The code
points are written in ascending order, each as its distance from the one before, in a base of
36 whose digits are weighted by a bias that adapts to the distances seen.
-/

namespace ArtifactTrust.Url.Punycode

set_option autoImplicit false

def digit (n : Nat) : Char := Char.ofNat (if n < 26 then 97 + n else 22 + n)

def digitValue? (c : Char) : Option Nat :=
  let n := c.toNat
  if 97 ≤ n ∧ n ≤ 122 then some (n - 97) else if 48 ≤ n ∧ n ≤ 57 then some (n - 22) else none

/-- The first digit at position `k` that ends a number. -/
def threshold (k bias : Nat) : Nat := max 1 (min 26 (k - bias))

/-- Divides a distance until it is small; counts the divisions in steps of 36. -/
def shrink : Nat → Nat → Nat × Nat
  | 0, delta => (0, delta)
  | rounds + 1, delta =>
    if 455 < delta then let (k, delta) := shrink rounds (delta / 35); (k + 36, delta) else (0, delta)

def adapt (delta points : Nat) (first : Bool) : Nat :=
  let delta := if first then delta / 700 else delta / 2
  let (k, delta) := shrink 32 (delta + delta / points)
  k + 36 * delta / (delta + 38)

/-- The digits of a number; as many as `limit` allows. -/
def numberDigits (bias : Nat) : Nat → Nat → Nat → List Char
  | 0, _, _ => []
  | limit + 1, k, n =>
    let t := threshold k bias
    if n < t then [digit n]
    else digit (t + (n - t) % (36 - t)) :: numberDigits bias limit (k + 36) ((n - t) / (36 - t))

structure State where
  output : List Char
  delta : Nat
  bias : Nat
  written : Nat

/-- Passes one character by while the code point `n` is being written. -/
def State.pass (basic n : Nat) (s : State) (c : Char) : State :=
  if c.toNat < n then { s with delta := s.delta + 1 }
  else if c.toNat = n then
    { output := s.output ++ numberDigits s.bias 64 36 s.delta
      delta := 0
      bias := adapt s.delta (s.written + 1) (s.written = basic)
      written := s.written + 1 }
  else s

/-- Writes the code points of a label in ascending order, from `n` on. -/
def encodePoints (label : List Char) (basic : Nat) : Nat → List Nat → State → State
  | _, [], s => s
  | n, point :: rest, s =>
    let s := { s with delta := s.delta + (point - n) * (s.written + 1) }
    let s := label.foldl (State.pass basic point) s
    encodePoints label basic (point + 1) rest { s with delta := s.delta + 1 }

def encode (label : List Char) : List Char :=
  let basic := label.filter fun c => c.toNat < 128
  let points := ((label.map Char.toNat).filter (128 ≤ ·)).mergeSort.eraseReps
  let start := if basic.isEmpty then [] else basic ++ ['-']
  (encodePoints label basic.length 128 points ⟨start, 0, 72, basic.length⟩).output

/-- One number from digits, and the digits behind it. -/
def number? (bias : Nat) (k weight n : Nat) : List Nat → Option (Nat × List Nat)
  | [] => none
  | d :: rest =>
    let n := n + d * weight
    let t := threshold k bias
    if d < t then some (n, rest) else number? bias (k + 36) (weight * (36 - t)) n rest

/-- Puts the characters that digits stand for into what is decoded so far. -/
def decodePoints : Nat → Nat → Nat → Nat → List Char → List Nat → Option (List Char)
  | _, _, _, _, output, [] => some output
  | 0, _, _, _, _, _ :: _ => none
  | limit + 1, n, i, bias, output, digits => do
    let (distance, rest) ← number? bias 36 1 0 digits
    let count := output.length + 1
    let n := n + (i + distance) / count
    let place := (i + distance) % count
    if n.isValidChar then
      decodePoints limit n (place + 1) (adapt distance count (i = 0))
        (output.take place ++ Char.ofNat n :: output.drop place) rest
    else none

def decode? (encoded : List Char) : Option (List Char) := do
  let ending := (encoded.reverse.takeWhile (· ≠ '-')).reverse
  let basic := encoded.take (encoded.length - ending.length - 1)
  let digits ← (if basic.isEmpty then encoded else ending).mapM digitValue?
  decodePoints digits.length 128 0 72 basic digits

end ArtifactTrust.Url.Punycode
