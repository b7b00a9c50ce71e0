import ArtifactTrust.Hash.Sha256
import ArtifactTrust.Hash.Sha512

/-!
# Hashing in portions and as a whole

An input may be taken in portion by portion, because what is pending between two portions stands in
front of the next. The result is that of the whole input, padded and cut into blocks.
-/

namespace ArtifactTrust.Hash

set_option autoImplicit false

@[simp] theorem length_bigEndian (size n : Nat) : (bigEndian size n).length = size := by
  induction size with
  | zero => rfl
  | succ size ih => rw [bigEndian, List.length_cons, ih]

namespace BlockHash

variable {h : BlockHash} {input : List UInt8}

/-! ### Portions -/

theorem absorb_add (m n : Nat) (chain : h.Chain) (input : List UInt8) :
    h.absorb (m + n) chain input =
      h.absorb n (h.absorb m chain input) (input.drop (m * h.blockSize)) := by
  induction m generalizing chain input with
  | zero => rw [Nat.zero_add, Nat.zero_mul, List.drop_zero, absorb]
  | succ m ih => rw [Nat.succ_add, absorb, ih, absorb, List.drop_drop, Nat.succ_mul, Nat.add_comm]

theorem absorb_append {count : Nat} (enough : count * h.blockSize ≤ input.length)
    (chain : h.Chain) (more : List UInt8) :
    h.absorb count chain (input ++ more) = h.absorb count chain input := by
  induction count generalizing chain input with
  | zero => rfl
  | succ count ih =>
    rw [Nat.succ_mul] at enough
    have first : h.blockSize ≤ input.length := by omega
    have others : count * h.blockSize ≤ (input.drop h.blockSize).length := by
      rw [List.length_drop]
      omega
    rw [absorb, absorb, List.take_append_of_le_length first, List.drop_append_of_le_length first,
      ih others]

/-- The blocks of a longer input: those of its front, and those of what is left with the rest. -/
theorem count_append (input more : List UInt8) :
    (input ++ more).length / h.blockSize =
      input.length / h.blockSize +
        (input.drop (input.length / h.blockSize * h.blockSize) ++ more).length / h.blockSize := by
  have within := Nat.div_mul_le_self input.length h.blockSize
  have lengths : (input ++ more).length =
      (input.drop (input.length / h.blockSize * h.blockSize) ++ more).length +
        input.length / h.blockSize * h.blockSize := by
    rw [List.length_append, List.length_append, List.length_drop]
    omega
  rw [lengths, Nat.add_mul_div_right _ _ h.blockSize_pos, Nat.add_comm]

/-- Two portions are taken in like one. -/
theorem update_append (p : h.Progress) (a b : List UInt8) :
    h.update (h.update p a) b = h.update p (a ++ b) := by
  have within := Nat.div_mul_le_self (p.pending ++ a).length h.blockSize
  have count := count_append (h := h) (p.pending ++ a) b
  unfold update
  simp only [← List.append_assoc, count]
  congr 1
  · rw [absorb_add, absorb_append within, List.drop_append_of_le_length within]
  · rw [Nat.add_mul, ← List.drop_drop, List.drop_append_of_le_length within]
  · rw [List.length_append, Nat.add_assoc]

theorem foldl_update (p : h.Progress) (a : List UInt8) (portions : List (List UInt8)) :
    portions.foldl h.update (h.update p a) = h.update p (a ++ portions.flatten) := by
  induction portions generalizing a with
  | nil => rw [List.foldl_nil, List.flatten_nil, List.append_nil]
  | cons portion rest ih =>
    rw [List.foldl_cons, update_append, ih, List.flatten_cons, List.append_assoc]

theorem update_initial_nil : h.update h.initial [] = h.initial := by
  unfold update initial
  simp only [List.append_nil, List.length_nil, Nat.zero_div, List.drop_nil]
  rfl

theorem hashPortions_eq_hash (portions : List (List UInt8)) :
    h.hashPortions portions = h.hash portions.flatten := by
  have folded := foldl_update h.initial [] portions
  rw [update_initial_nil, List.nil_append] at folded
  rw [hashPortions, folded, hash]

/-! ### The whole input -/

def padded (h : BlockHash) (input : List UInt8) : List UInt8 := input ++ h.padding input.length

def blocks (h : BlockHash) (input : List UInt8) : List (List UInt8) :=
  if input = [] then [] else input.take h.blockSize :: h.blocks (input.drop h.blockSize)
termination_by input.length
decreasing_by
  have filled := List.length_pos_iff.mpr ‹input ≠ []›
  have size := h.blockSize_pos
  rw [List.length_drop]
  omega

/-- The hash of an input that is there as a whole. -/
def ofWhole (h : BlockHash) (input : List UInt8) : List UInt8 :=
  h.output ((h.blocks (h.padded input)).foldl h.compress h.start)

theorem length_padded (h : BlockHash) (input : List UInt8) :
    (h.padded input).length = input.length + 1 + h.lengthSize +
      (h.blockSize - (input.length + 1 + h.lengthSize) % h.blockSize) % h.blockSize := by
  unfold padded padding
  simp only [List.length_append, List.length_cons, List.length_replicate, length_bigEndian]
  omega

/-- The last block is full. -/
theorem blockSize_dvd_length_padded (h : BlockHash) (input : List UInt8) :
    h.blockSize ∣ (h.padded input).length := by
  rw [length_padded]
  generalize input.length + 1 + h.lengthSize = used
  have whole := Nat.div_add_mod used h.blockSize
  have below := Nat.mod_lt used h.blockSize_pos
  by_cases full : used % h.blockSize = 0
  · rw [full, Nat.sub_zero, Nat.mod_self, Nat.add_zero]
    exact Nat.dvd_of_mod_eq_zero full
  · rw [Nat.mod_eq_of_lt (by omega)]
    refine ⟨used / h.blockSize + 1, ?_⟩
    rw [Nat.mul_add, Nat.mul_one]
    omega

theorem absorb_eq_foldl {count : Nat} (full : input.length = count * h.blockSize)
    (chain : h.Chain) : h.absorb count chain input = (h.blocks input).foldl h.compress chain := by
  induction count generalizing chain input with
  | zero =>
    rw [Nat.zero_mul, List.length_eq_zero_iff] at full
    rw [full, blocks, if_pos rfl]
    rfl
  | succ count ih =>
    have positive := h.blockSize_pos
    rw [Nat.succ_mul] at full
    have filled : input ≠ [] := by
      rintro rfl
      rw [List.length_nil] at full
      omega
    have others : (input.drop h.blockSize).length = count * h.blockSize := by
      rw [List.length_drop]
      omega
    rw [blocks, if_neg filled, List.foldl_cons, absorb, ih others]

theorem hash_eq_ofWhole (h : BlockHash) (input : List UInt8) : h.hash input = h.ofWhole input := by
  have count := Nat.div_mul_cancel (blockSize_dvd_length_padded h input)
  have seen : (h.update h.initial input).seen = input.length := Nat.zero_add _
  unfold hash finish ofWhole
  rw [seen, update_append]
  change h.output (h.absorb ((h.padded input).length / h.blockSize) h.start (h.padded input)) = _
  rw [absorb_eq_foldl count.symm]

end BlockHash

end ArtifactTrust.Hash
