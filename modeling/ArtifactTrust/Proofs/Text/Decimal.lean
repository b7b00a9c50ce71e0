import ArtifactTrust.Text.Blank
import ArtifactTrust.Text.Decimal

/-!
# The digits of numbers

The digits of a number begin with a zero only for zero, and their value is the number.
-/

namespace ArtifactTrust.Text

set_option autoImplicit false

variable {n width : Nat} {c : Char}

theorem isDigit_eq (c : Char) : isDigit c = c.isDigit := rfl

theorem toNat_of_isDigit (digit : isDigit c = true) : 48 ≤ c.toNat ∧ c.toNat ≤ 57 := by
  simp only [isDigit, Bool.and_eq_true, decide_eq_true_eq] at digit
  exact digit

theorem isBlank_of_isDigit (digit : isDigit c = true) : isBlank c = false := by
  obtain ⟨low, high⟩ := toNat_of_isDigit digit
  unfold isBlank
  simp only [Bool.or_eq_false_iff, Bool.and_eq_false_iff, decide_eq_false_iff_not, beq_eq_false_iff_ne]
  omega

theorem takeWhile_isDigit {ds rest : List Char} (digits : ∀ c ∈ ds, isDigit c = true)
    (stops : ∀ c, rest.head? = some c → isDigit c = false) :
    (ds ++ rest).takeWhile isDigit = ds := by
  rw [List.takeWhile_append_of_pos digits]
  cases rest with
  | nil => exact List.append_nil ds
  | cons c rest =>
    rw [List.takeWhile_cons, stops c rfl]
    exact List.append_nil ds

/-! ### Numbers without leading zeros -/

theorem toList_toString (n : Nat) : (toString n).toList = Nat.toDigits 10 n := by
  rw [Nat.toString_eq_repr, Nat.repr_eq_ofList_toDigits, String.toList_ofList]

theorem digitsValue_toString (n : Nat) : digitsValue (toString n).toList = n := by
  rw [toList_toString]
  exact Nat.ofDigitChars_toDigits (by decide) (by decide)

theorem isDigit_of_mem_toString (mem : c ∈ (toString n).toList) : isDigit c = true := by
  rw [toList_toString] at mem
  rw [isDigit_eq]
  exact Nat.isDigit_of_mem_toDigits (by decide) (by decide) mem

theorem length_toString_pos (n : Nat) : 0 < (toString n).toList.length := by
  rw [toList_toString]
  exact Nat.length_toDigits_pos

theorem length_toString_le (positive : 0 < width) (small : n < Nat.pow 10 width) :
    (toString n).toList.length ≤ width := by
  rw [toList_toString]
  exact (Nat.length_toDigits_le_iff (by decide) positive).mpr small

theorem head?_toString_ne_zero (positive : 0 < n) : (toString n).toList.head? ≠ some '0' := by
  rw [toList_toString]
  induction n using Nat.strongRecOn with
  | ind n ih =>
    rcases Nat.lt_or_ge n 10 with one | more
    · rw [Nat.toDigits_of_lt_base one]
      have digits : ∀ d < 10, 0 < d → d.digitChar ≠ '0' := by decide
      simpa using digits n one positive
    · have front := ih (n / 10) (by omega) (by omega)
      rw [Nat.toDigits_of_base_le (by decide) more, List.head?_append]
      cases start : (Nat.toDigits 10 (n / 10)).head? with
      | none => exact absurd (List.head?_eq_none_iff.mp start) Nat.toDigits_ne_nil
      | some first =>
        rw [start] at front
        exact front

/-! ### Numbers with leading zeros -/

theorem toList_padded (width n : Nat) : (padded width n).toList =
    List.replicate (width - (toString n).toList.length) '0' ++ (toString n).toList := by
  rw [padded, String.toList_ofList]

theorem digitsValue_padded (width n : Nat) : digitsValue (padded width n).toList = n := by
  have zeros (k : Nat) (cs : List Char) :
      digitsValue (List.replicate k '0' ++ cs) = digitsValue cs := by
    unfold digitsValue
    induction k with
    | zero => rfl
    | succ k ih =>
      rw [List.replicate_succ, List.cons_append, List.foldl_cons]
      exact ih
  rw [toList_padded, zeros, digitsValue_toString]

theorem isDigit_of_mem_padded (mem : c ∈ (padded width n).toList) : isDigit c = true := by
  rw [toList_padded] at mem
  rcases List.mem_append.mp mem with zero | mem
  · rw [(List.mem_replicate.mp zero).2]
    decide
  · exact isDigit_of_mem_toString mem

theorem length_padded (positive : 0 < width) (small : n < Nat.pow 10 width) :
    (padded width n).toList.length = width := by
  have short := length_toString_le positive small
  rw [toList_padded, List.length_append, List.length_replicate]
  omega

theorem digitsValue_append_zeros (cs : List Char) (k : Nat) :
    digitsValue (cs ++ List.replicate k '0') = digitsValue cs * Nat.pow 10 k := by
  unfold digitsValue
  induction k with
  | zero => simp
  | succ k ih =>
    have shift : Nat.pow 10 (k + 1) = Nat.pow 10 k * 10 := rfl
    rw [List.replicate_succ', ← List.append_assoc, List.foldl_append, ih, shift,
      ← Nat.mul_assoc, Nat.mul_comm _ 10]
    rfl

theorem padded_ne_nil (width n : Nat) : (padded width n).toList ≠ [] := by
  have positive := length_toString_pos n
  rw [toList_padded]
  intro none
  rw [(List.append_eq_nil_iff.mp none).2] at positive
  exact absurd positive (by decide)

end ArtifactTrust.Text
