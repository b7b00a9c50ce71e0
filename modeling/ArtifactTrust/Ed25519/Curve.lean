/-!
# The curve of Ed25519

The twisted Edwards curve `-x² + y² = 1 + d x² y²` over the integers modulo `2²⁵⁵ - 19`. Points
are kept in extended coordinates, where no operation divides: `x = X / Z`, `y = Y / Z` and
`T Z = X Y`. A point is written as its `y` in 32 bytes, least significant first, with the
parity of `x` in the highest bit.
-/

namespace ArtifactTrust.Ed25519

set_option autoImplicit false

def modulus : Nat := Nat.pow 2 255 - 19

namespace Residue

def mul (a b : Nat) : Nat := a * b % modulus

def add (a b : Nat) : Nat := (a + b) % modulus

def sub (a b : Nat) : Nat := (a + (modulus - b % modulus)) % modulus

/-- The power of a residue, for an exponent below `2 ^ bits`. -/
def power (a : Nat) : Nat → Nat → Nat
  | 0, _ => 1
  | bits + 1, e =>
    let half := power a bits (e / 2)
    if e % 2 = 1 then mul a (mul half half) else mul half half

/-- The inverse of a residue other than zero: its power to two below the modulus. -/
def inverse (a : Nat) : Nat := power a 255 (modulus - 2)

/-- The constant of the curve, `-121665 / 121666`. -/
def d : Nat := mul (sub 0 121665) (inverse 121666)

def rootOfMinusOne : Nat := power 2 253 ((modulus - 1) / 4)

/-- A residue `x` with `v x² = u`, if there is one. -/
def rootOfRatio? (u v : Nat) : Option Nat :=
  let v3 := mul v (mul v v)
  let v7 := mul v (mul v3 v3)
  let x := mul (mul u v3) (power (mul u v7) 252 ((modulus - 5) / 8))
  let square := mul v (mul x x)
  if square = u % modulus then some x
  else if square = sub 0 u then some (mul x rootOfMinusOne)
  else none

end Residue

def littleEndian : List UInt8 → Nat
  | [] => 0
  | b :: bs => b.toNat + 256 * littleEndian bs

def littleEndianBytes : Nat → Nat → List UInt8
  | 0, _ => []
  | size + 1, n => UInt8.ofNat (n % 256) :: littleEndianBytes size (n / 256)

/-- A point in extended coordinates. -/
structure Point where
  x : Nat
  y : Nat
  z : Nat
  t : Nat
deriving DecidableEq, Repr

namespace Point

open Residue

def zero : Point := ⟨0, 1, 1, 0⟩

def ofAffine (x y : Nat) : Point := ⟨x, y, 1, mul x y⟩

def add (p q : Point) : Point :=
  let a := mul (sub p.y p.x) (sub q.y q.x)
  let b := mul (Residue.add p.y p.x) (Residue.add q.y q.x)
  let c := mul (mul p.t (mul 2 d)) q.t
  let e := mul (mul p.z 2) q.z
  let f := sub b a
  let g := sub e c
  let h := Residue.add e c
  let i := Residue.add b a
  ⟨mul f g, mul h i, mul g h, mul f i⟩

def neg (p : Point) : Point := ⟨sub 0 p.x, p.y, p.z, sub 0 p.t⟩

/-- The `n`-fold sum of a point with itself, for `n` below `2 ^ bits`. -/
def times (p : Point) : Nat → Nat → Point
  | 0, _ => zero
  | bits + 1, n =>
    let half := times p bits (n / 2)
    let twice := add half half
    if n % 2 = 1 then add twice p else twice

/-- The bit of the encoding that says whether `x` is odd; the bits below it are those of `y`. -/
def signBit : Nat := Nat.pow 2 255

def encode (p : Point) : List UInt8 :=
  let scale := inverse p.z
  let x := mul p.x scale
  let y := mul p.y scale
  littleEndianBytes 32 (y + signBit * (x % 2))

/-- The point that 32 bytes stand for. A `y` at or above the modulus and a zero `x` marked as
odd are accepted. -/
def decode? (bytes : List UInt8) : Option Point :=
  if bytes.length = 32 then do
    let n := littleEndian bytes
    let y := n % signBit % modulus
    let odd := n / signBit
    let square := mul y y
    let x ← rootOfRatio? (sub square 1) (Residue.add (mul d square) 1)
    return ofAffine (if x % 2 = odd then x else sub 0 x) y
  else none

def base : Point :=
  ofAffine 15112221349535400772501151409588531511454012693041857206046113283949847762202
    46316835694926478169428394003475163141307993866256225615783033603165251855960

end Point

def order : Nat := Nat.pow 2 252 + 27742317777372353535851937790883648493

end ArtifactTrust.Ed25519
