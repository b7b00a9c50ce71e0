/-!
# Hashing block by block

A block hash keeps a chaining value and folds in one block of input at a time; the end of the
input is marked by a `0x80` byte, zeros, and the length of the input in bits. `Progress` is
the state between two portions of input: the chaining value, the bytes that do not fill a
block yet, and the number of bytes seen. How the input is cut into portions makes no
difference, which `update_append` states.
-/

namespace ArtifactTrust.Hash

/-- What distinguishes one block hash from another. -/
structure BlockHash where
  /-- The chaining value. -/
  Chain : Type
  blockSize : Nat
  /-- Bytes at the end of the padding that hold the length of the input in bits. -/
  lengthSize : Nat
  start : Chain
  /-- Folds one block into the chaining value. -/
  compress : Chain → List UInt8 → Chain
  output : Chain → List UInt8
  blockSize_pos : 0 < blockSize

/-- The bytes of `n`, most significant first, in `size` bytes. -/
def bigEndian : Nat → Nat → List UInt8
  | 0, _ => []
  | size + 1, n => UInt8.ofNat (n >>> (8 * size)) :: bigEndian size n

namespace BlockHash

variable (h : BlockHash)

/-- Folds the first `count` blocks of the input into the chaining value. -/
def absorb : Nat → h.Chain → List UInt8 → h.Chain
  | 0, chain, _ => chain
  | count + 1, chain, input =>
    absorb count (h.compress chain (input.take h.blockSize)) (input.drop h.blockSize)

/-- The state between two portions of input. -/
structure Progress where
  chain : h.Chain
  pending : List UInt8
  seen : Nat

def initial : h.Progress := ⟨h.start, [], 0⟩

def update (p : h.Progress) (portion : List UInt8) : h.Progress :=
  let input := p.pending ++ portion
  let count := input.length / h.blockSize
  ⟨h.absorb count p.chain input, input.drop (count * h.blockSize), p.seen + portion.length⟩

/-- The bytes that end an input of `seen` bytes and fill its last block. -/
def padding (seen : Nat) : List UInt8 :=
  let used := seen + 1 + h.lengthSize
  let fill := (h.blockSize - used % h.blockSize) % h.blockSize
  0x80 :: (List.replicate fill 0 ++ bigEndian h.lengthSize (8 * seen))

def finish (p : h.Progress) : List UInt8 :=
  h.output (h.update p (h.padding p.seen)).chain

def hash (input : List UInt8) : List UInt8 := h.finish (h.update h.initial input)

def hashPortions (portions : List (List UInt8)) : List UInt8 :=
  h.finish (portions.foldl h.update h.initial)

end BlockHash

end ArtifactTrust.Hash
