import ArtifactTrust.Proofs.Except
import ArtifactTrust.Text.Base64

/-!
# The texts that Base64 decoding takes

`decode` takes the texts that `encode` writes and no other. The proof follows the groups of the
text: four symbols are three bytes, and only the last group may be short.
-/

namespace ArtifactTrust.Text.Base64

set_option autoImplicit false

/-! ### Symbols -/

theorem symbol_ne_pad {n : Nat} (h : n < 64) : symbol n ≠ pad := by
  revert n
  decide

theorem value?_symbol {n : Nat} (h : n < 64) : value? (symbol n) = some n := by
  revert n
  decide

theorem eq_symbol_of_value? {b : UInt8} {n : Nat} (h : value? b = some n) :
    n < 64 ∧ b = symbol n := by
  have table : ∀ k, k < 256 → ∀ n ∈ value? (UInt8.ofNat k), n < 64 ∧ UInt8.ofNat k = symbol n := by
    decide +kernel
  have := table b.toNat b.toNat_lt n
  rw [UInt8.ofNat_toNat] at this
  exact this h

theorem value_eq_ok_iff {b : UInt8} {offset n : Nat} :
    value b offset = .ok n ↔ n < 64 ∧ b = symbol n := by
  unfold value
  constructor
  · intro h
    cases hv : value? b with
    | none => simp [hv] at h
    | some k =>
      simp only [hv, Except.ok.injEq] at h
      subst h
      exact eq_symbol_of_value? hv
  · rintro ⟨hn, rfl⟩
    rw [value?_symbol hn]

@[simp] theorem value_symbol {n : Nat} (h : n < 64) (offset : Nat) :
    value (symbol n) offset = .ok n :=
  value_eq_ok_iff.mpr ⟨h, rfl⟩

/-! ### Groups -/

theorem toNat_firstByte {a b : Nat} (ha : a < 64) (hb : b < 64) :
    (firstByte a b).toNat = a * 4 + b / 16 := by
  unfold firstByte
  rw [UInt8.toNat_ofNat']
  omega

theorem toNat_secondByte {b c : Nat} (hc : c < 64) :
    (secondByte b c).toNat = b % 16 * 16 + c / 4 := by
  unfold secondByte
  rw [UInt8.toNat_ofNat']
  omega

theorem toNat_thirdByte {c d : Nat} (hd : d < 64) : (thirdByte c d).toNat = c % 4 * 64 + d := by
  unfold thirdByte
  rw [UInt8.toNat_ofNat']
  omega

theorem firstByte_eq (x : UInt8) {n : Nat} (h : n < 16) :
    firstByte (x.toNat / 4) (x.toNat % 4 * 16 + n) = x := by
  have hx := x.toNat_lt
  apply UInt8.toNat_inj.mp
  rw [toNat_firstByte (by omega) (by omega)]
  omega

theorem secondByte_eq (y : UInt8) {m n : Nat} (h : n < 4) :
    secondByte (m * 16 + y.toNat / 16) (y.toNat % 16 * 4 + n) = y := by
  have hy := y.toNat_lt
  apply UInt8.toNat_inj.mp
  rw [toNat_secondByte (by omega)]
  omega

theorem thirdByte_eq (z : UInt8) (m : Nat) :
    thirdByte (m * 4 + z.toNat / 64) (z.toNat % 64) = z := by
  have hz := z.toNat_lt
  apply UInt8.toNat_inj.mp
  rw [toNat_thirdByte (by omega)]
  omega

theorem decodeFull_eq_ok_iff {offset : Nat} {p q r t : UInt8} {bytes : List UInt8} :
    decodeFull offset p q r t = .ok bytes ↔
      ∃ x y z : UInt8, bytes = [x, y, z] ∧ [p, q, r, t] = encode [x, y, z] := by
  unfold decodeFull
  simp only [bind_eq_ok_iff, value_eq_ok_iff]
  constructor
  · rintro ⟨a, ⟨ha, rfl⟩, b, ⟨hb, rfl⟩, c, ⟨hc, rfl⟩, d, ⟨hd, rfl⟩, h⟩
    cases h
    refine ⟨_, _, _, rfl, ?_⟩
    simp only [encode, toNat_firstByte ha hb, toNat_secondByte hc, toNat_thirdByte hd,
      List.cons.injEq, and_true]
    refine ⟨congrArg symbol ?_, congrArg symbol ?_, congrArg symbol ?_, congrArg symbol ?_⟩ <;>
      omega
  · rintro ⟨x, y, z, rfl, h⟩
    have hx := x.toNat_lt
    have hy := y.toNat_lt
    have hz := z.toNat_lt
    simp only [encode, List.cons.injEq, and_true] at h
    obtain ⟨rfl, rfl, rfl, rfl⟩ := h
    refine ⟨_, ⟨?_, rfl⟩, _, ⟨?_, rfl⟩, _, ⟨?_, rfl⟩, _, ⟨?_, rfl⟩, ?_⟩
    · omega
    · omega
    · omega
    · omega
    · rw [firstByte_eq x (by omega), secondByte_eq y (by omega), thirdByte_eq]
      rfl

theorem length_encode_pos {bytes : List UInt8} (h : bytes ≠ []) : 4 ≤ (encode bytes).length := by
  match bytes, h with
  | [a], _ => exact Nat.le_refl 4
  | [a, b], _ => exact Nat.le_refl 4
  | a :: b :: c :: rest, _ =>
    simp only [encode, List.length_cons]
    omega

theorem decodeFilled_eq_ok {offset a b : Nat} {r t : UInt8} {bytes : List UInt8} (ha : a < 64)
    (hb : b < 64) (h : decodeFilled offset a b (symbol b) r t = .ok bytes) :
    [symbol a, symbol b, r, t] = encode bytes := by
  unfold decodeFilled at h
  split at h
  · rename_i hr
    split at h
    · rename_i ht
      split at h
      · rename_i hlast
        cases h
        subst hr ht
        simp only [encode, toNat_firstByte ha hb, List.cons.injEq, and_true]
        refine ⟨congrArg symbol ?_, congrArg symbol ?_⟩ <;> omega
      · cases h
    · cases h
  · simp only [bind_eq_ok_iff, value_eq_ok_iff] at h
    obtain ⟨c, ⟨hc, rfl⟩, h⟩ := h
    split at h
    · rename_i ht
      split at h
      · rename_i hlast
        cases h
        subst ht
        simp only [encode, toNat_firstByte ha hb, toNat_secondByte hc, List.cons.injEq, and_true]
        refine ⟨congrArg symbol ?_, congrArg symbol ?_, congrArg symbol ?_⟩ <;> omega
      · cases h
    · simp only [bind_eq_ok_iff, value_eq_ok_iff] at h
      obtain ⟨d, ⟨hd, rfl⟩, h⟩ := h
      cases h
      simp only [encode, toNat_firstByte ha hb, toNat_secondByte hc, toNat_thirdByte hd,
        List.cons.injEq, and_true]
      refine ⟨congrArg symbol ?_, congrArg symbol ?_, congrArg symbol ?_, congrArg symbol ?_⟩ <;>
        omega

theorem decodeFilled_eq_ok_iff {offset : Nat} {p q r t : UInt8} {bytes : List UInt8} :
    (do
      let a ← value p offset
      let b ← value q (offset + 1)
      decodeFilled offset a b q r t) = .ok bytes ↔ [p, q, r, t] = encode bytes := by
  simp only [bind_eq_ok_iff, value_eq_ok_iff]
  constructor
  · rintro ⟨a, ⟨ha, rfl⟩, b, ⟨hb, rfl⟩, h⟩
    exact decodeFilled_eq_ok ha hb h
  intro h
  match bytes with
  | [] => cases h
  | [x] =>
    have hx := x.toNat_lt
    simp only [encode, List.cons.injEq, and_true] at h
    obtain ⟨rfl, rfl, rfl, rfl⟩ := h
    refine ⟨_, ⟨?_, rfl⟩, _, ⟨?_, rfl⟩, ?_⟩
    · omega
    · omega
    · have first := firstByte_eq x (n := 0) (by omega)
      have low : x.toNat % 4 * 16 % 16 = 0 := by omega
      simp only [decodeFilled, if_true, low]
      rw [Nat.add_zero] at first
      rw [first]
  | [x, y] =>
    have hx := x.toNat_lt
    have hy := y.toNat_lt
    simp only [encode, List.cons.injEq, and_true] at h
    obtain ⟨rfl, rfl, rfl, rfl⟩ := h
    refine ⟨_, ⟨?_, rfl⟩, _, ⟨?_, rfl⟩, ?_⟩
    · omega
    · omega
    · have third : y.toNat % 16 * 4 < 64 := by omega
      have second := secondByte_eq y (m := x.toNat % 4) (n := 0) (by omega)
      have low : y.toNat % 16 * 4 % 4 = 0 := by omega
      simp only [decodeFilled, symbol_ne_pad third, if_false, value_symbol third, bind_ok, if_true,
        low]
      rw [Nat.add_zero] at second
      rw [firstByte_eq x (by omega), second]
  | [x, y, z] =>
    have hx := x.toNat_lt
    have hy := y.toNat_lt
    have hz := z.toNat_lt
    simp only [encode, List.cons.injEq, and_true] at h
    obtain ⟨rfl, rfl, rfl, rfl⟩ := h
    refine ⟨_, ⟨?_, rfl⟩, _, ⟨?_, rfl⟩, ?_⟩
    · omega
    · omega
    · have third : y.toNat % 16 * 4 + z.toNat / 64 < 64 := by omega
      have fourth : z.toNat % 64 < 64 := by omega
      simp only [decodeFilled, symbol_ne_pad third, symbol_ne_pad fourth, if_false,
        value_symbol third, value_symbol fourth, bind_ok]
      rw [firstByte_eq x (by omega), secondByte_eq y (by omega), thirdByte_eq]
      rfl
  | x :: y :: z :: w :: rest =>
    have long := length_encode_pos (List.cons_ne_nil w rest)
    have := congrArg List.length h
    simp only [encode, List.length_cons, List.length_nil] at this
    omega

/-! ### Texts -/

theorem length_encode_mod (bytes : List UInt8) : (encode bytes).length % 4 = 0 := by
  induction bytes using encode.induct with
  | case1 => rfl
  | case2 a => simp [encode]
  | case3 a b => simp [encode]
  | case4 a b c rest ih =>
    simp only [encode, List.length_cons]
    omega

theorem encode_eq_nil_iff {bytes : List UInt8} : encode bytes = [] ↔ bytes = [] := by
  constructor
  · intro h
    apply Classical.byContradiction
    intro hne
    have long := length_encode_pos hne
    rw [h] at long
    exact absurd long (by decide)
  · rintro rfl
    rfl

theorem ne_encode {text : List UInt8} (h : text.length % 4 ≠ 0) (bytes : List UInt8) :
    text ≠ encode bytes := by
  rintro rfl
  exact h (length_encode_mod bytes)

theorem group_append_eq_encode_iff {p q r t : UInt8} {others bytes : List UInt8}
    (h : others ≠ []) :
    p :: q :: r :: t :: others = encode bytes ↔
      ∃ x y z rest, bytes = x :: y :: z :: rest ∧ [p, q, r, t] = encode [x, y, z] ∧
        others = encode rest := by
  constructor
  · intro e
    match bytes with
    | [] => cases e
    | [x] =>
      simp only [encode, List.cons.injEq] at e
      exact absurd e.2.2.2.2 h
    | [x, y] =>
      simp only [encode, List.cons.injEq] at e
      exact absurd e.2.2.2.2 h
    | x :: y :: z :: rest =>
      simp only [encode, List.cons.injEq] at e
      obtain ⟨rfl, rfl, rfl, rfl, rfl⟩ := e
      exact ⟨x, y, z, rest, rfl, rfl, rfl⟩
  · rintro ⟨x, y, z, rest, rfl, group, rfl⟩
    simp only [encode, List.cons.injEq, and_true] at group
    obtain ⟨rfl, rfl, rfl, rfl⟩ := group
    rfl

theorem decodeFrom_eq_ok_iff {offset : Nat} {text bytes : List UInt8} :
    decodeFrom offset text = .ok bytes ↔ text = encode bytes := by
  induction offset, text using decodeFrom.induct generalizing bytes with
  | case1 offset =>
    simp only [decodeFrom, Except.ok.injEq]
    rw [eq_comm, ← encode_eq_nil_iff, eq_comm]
  | case2 offset p =>
    refine iff_of_false ?_ (ne_encode (by simp) bytes)
    simp [decodeFrom, bind_eq_ok_iff]
  | case3 offset p q =>
    refine iff_of_false ?_ (ne_encode (by simp) bytes)
    simp [decodeFrom, bind_eq_ok_iff]
  | case4 offset p q r =>
    refine iff_of_false ?_ (ne_encode (by simp) bytes)
    unfold decodeFrom
    split <;> simp [bind_eq_ok_iff]
  | case5 offset p q r t => exact decodeFilled_eq_ok_iff
  | case6 offset p q r t next rest ih =>
    rw [group_append_eq_encode_iff (List.cons_ne_nil next rest), decodeFrom, bind_eq_ok_iff]
    simp only [decodeFull_eq_ok_iff, bind_eq_ok_iff, ih]
    constructor
    · rintro ⟨_, ⟨x, y, z, rfl, group⟩, others, following, h⟩
      cases h
      exact ⟨x, y, z, others, rfl, group, following⟩
    · rintro ⟨x, y, z, others, rfl, group, following⟩
      exact ⟨[x, y, z], ⟨x, y, z, rfl, group⟩, others, following, rfl⟩

theorem decode_eq_ok_iff {text bytes : List UInt8} :
    decode text = .ok bytes ↔ text = encode bytes := by
  unfold decode
  constructor
  · intro h
    split at h
    · cases h
    · exact decodeFrom_eq_ok_iff.mp h
  · rintro rfl
    have full : strayEnd? (encode bytes) = none := by
      unfold strayEnd?
      rw [if_neg]
      rw [length_encode_mod]
      decide
    rw [full]
    exact decodeFrom_eq_ok_iff.mpr rfl

/-! ### Strings -/

theorem symbol_lt (n : Nat) : (symbol n).toNat < 128 := by
  unfold symbol
  split
  · rw [UInt8.toNat_ofNat']
    omega
  split
  · rw [UInt8.toNat_ofNat']
    omega
  split
  · rw [UInt8.toNat_ofNat']
    omega
  split <;> decide

theorem mem_encode_lt {bytes : List UInt8} {b : UInt8} (h : b ∈ encode bytes) : b.toNat < 128 := by
  induction bytes using encode.induct with
  | case1 => cases h
  | case2 x =>
    simp only [encode, List.mem_cons, List.not_mem_nil, or_false] at h
    rcases h with rfl | rfl | rfl | rfl
    · exact symbol_lt _
    · exact symbol_lt _
    · decide
    · decide
  | case3 x y =>
    simp only [encode, List.mem_cons, List.not_mem_nil, or_false] at h
    rcases h with rfl | rfl | rfl | rfl
    · exact symbol_lt _
    · exact symbol_lt _
    · exact symbol_lt _
    · decide
  | case4 x y z rest ih =>
    simp only [encode, List.mem_cons] at h
    rcases h with rfl | rfl | rfl | rfl | h
    · exact symbol_lt _
    · exact symbol_lt _
    · exact symbol_lt _
    · exact symbol_lt _
    · exact ih h

theorem utf8EncodeChar_ofNat {b : UInt8} (h : b.toNat < 128) :
    String.utf8EncodeChar (Char.ofNat b.toNat) = [b] := by
  have table : ∀ n, n < 128 → String.utf8EncodeChar (Char.ofNat n) = [UInt8.ofNat n] := by
    decide +kernel
  rw [table b.toNat h, UInt8.ofNat_toNat]

theorem utf8_ofAscii {bytes : List UInt8} (h : ∀ b ∈ bytes, b.toNat < 128) :
    (String.ofList (bytes.map fun b => Char.ofNat b.toNat)).toUTF8.data.toList = bytes := by
  rw [String.toUTF8_eq_toByteArray, String.toByteArray_ofList, List.utf8Encode,
    List.data_toByteArray, List.toList_toArray]
  induction bytes with
  | nil => rfl
  | cons b rest ih =>
    rw [List.map_cons, List.flatMap_cons, utf8EncodeChar_ofNat (h b List.mem_cons_self),
      ih fun c hc => h c (List.mem_cons_of_mem b hc)]
    rfl

theorem utf8_encoded (bytes : List UInt8) :
    (encoded bytes).toUTF8.data.toList = encode bytes :=
  utf8_ofAscii fun _ h => mem_encode_lt h

theorem eq_of_utf8_eq {s t : String} (h : s.toUTF8.data.toList = t.toUTF8.data.toList) : s = t := by
  apply String.toByteArray_inj.mp
  exact ByteArray.ext (Array.toList_inj.mp h)

/-- A string decodes only if it is the canonical one for its bytes. -/
theorem decoded_eq_ok_iff {text : String} {bytes : List UInt8} :
    decoded text = .ok bytes ↔ text = encoded bytes := by
  unfold decoded
  rw [decode_eq_ok_iff, ← utf8_encoded]
  constructor
  · exact eq_of_utf8_eq
  · rintro rfl
    rfl

end ArtifactTrust.Text.Base64
