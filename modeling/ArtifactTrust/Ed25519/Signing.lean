import ArtifactTrust.Ed25519.Curve
import ArtifactTrust.Hash.Sha512

/-!
# Signatures of Ed25519

A signature is the encoding of a point `R` and a number `S` below the order of the base point.
It belongs to a message and a public key `A` when `R` is the encoding of `S B - k A`, where
`k` is the hash of `R`, of the encoding of `A` and of the message.
-/

namespace ArtifactTrust.Ed25519

set_option autoImplicit false

def hashNumber (input : List UInt8) : Nat := littleEndian (Hash.sha512.hash input)

/-- A public key: 32 bytes that encode a point. -/
structure PublicKey where
  bytes : List UInt8
  point : Point
  decodes : Point.decode? bytes = some point

namespace PublicKey

def ofBytes? (bytes : List UInt8) : Option PublicKey :=
  match h : Point.decode? bytes with
  | some point => some ⟨bytes, point, h⟩
  | none => none

@[ext] theorem ext {a b : PublicKey} (h : a.bytes = b.bytes) : a = b := by
  obtain ⟨bytes, p, hp⟩ := a
  obtain ⟨_, q, hq⟩ := b
  subst h
  have : p = q := Option.some.inj (hp.symm.trans hq)
  subst this
  rfl

instance : DecidableEq PublicKey := fun a b =>
  if h : a.bytes = b.bytes then isTrue (ext h) else isFalse fun hab => h (by rw [hab])

/-- The number that ties a signature to a key and a message. -/
def challenge (nonce key message : List UInt8) : Nat := hashNumber (nonce ++ key ++ message) % order

def verifies (key : PublicKey) (message signature : List UInt8) : Bool :=
  let nonce := signature.take 32
  let s := littleEndian (signature.drop 32)
  let k := challenge nonce key.bytes message
  if s < order then
    (Point.add (Point.base.times 253 s) (key.point.neg.times 253 k)).encode = nonce
  else false

end PublicKey

structure SigningKey where
  seed : List UInt8
deriving DecidableEq, Repr

namespace SigningKey

def expanded (key : SigningKey) : List UInt8 := Hash.sha512.hash key.seed

/-- The secret multiple: a multiple of eight whose highest bit is the bit 254. -/
def secret (key : SigningKey) : Nat :=
  littleEndian (key.expanded.take 32) % Nat.pow 2 254 / 8 * 8 + Nat.pow 2 254

def publicBytes (key : SigningKey) : List UInt8 := (Point.base.times 255 key.secret).encode

def publicKey? (key : SigningKey) : Option PublicKey := PublicKey.ofBytes? key.publicBytes

def sign (key : SigningKey) (message : List UInt8) : List UInt8 :=
  let r := hashNumber (key.expanded.drop 32 ++ message) % order
  let nonce := (Point.base.times 253 r).encode
  let k := PublicKey.challenge nonce key.publicBytes message
  nonce ++ littleEndianBytes 32 ((r + k * key.secret) % order)

end SigningKey

end ArtifactTrust.Ed25519
