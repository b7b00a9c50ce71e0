import ArtifactTrust.Proofs.Text.Decimal
import ArtifactTrust.Time.Text

/-!
# Reading written instants

Each part of the reader takes what the writer put there and leaves the rest.
-/

namespace ArtifactTrust.Time

set_option autoImplicit false

open Text

variable {n width : Nat} {rest : List Char}

/-! ### Parts -/

namespace Parse

theorem trimStart_padded (width n : Nat) (rest : List Char) :
    trimStart ((padded width n).toList ++ rest) = (padded width n).toList ++ rest := by
  cases written : (padded width n).toList with
  | nil => exact absurd written (padded_ne_nil width n)
  | cons c cs =>
    have digit : isDigit c = true := isDigit_of_mem_padded (written ▸ List.mem_cons_self)
    rw [List.cons_append, trimStart, List.dropWhile_cons, isBlank_of_isDigit digit]
    rfl

theorem isEmpty_padded (width n : Nat) : (padded width n).toList.isEmpty = false :=
  List.isEmpty_eq_false_iff.mpr (padded_ne_nil width n)

/-- Any number of digits is read up to something that is no digit. -/
theorem takeWhile_padded (width n : Nat) (stops : ∀ c, rest.head? = some c → isDigit c = false) :
    ((padded width n).toList ++ rest).takeWhile isDigit = (padded width n).toList :=
  takeWhile_isDigit (fun _ mem => isDigit_of_mem_padded mem) stops

theorem number?_padded (positive : 0 < width) (small : n < Nat.pow 10 width) (rest : List Char) :
    number? width ((padded width n).toList ++ rest) = some (n, rest) := by
  have taken : ((padded width n).toList ++ rest).take width = (padded width n).toList :=
    List.take_left' (length_padded positive small)
  have digits : ((padded width n).toList ++ []).takeWhile isDigit = (padded width n).toList :=
    takeWhile_padded width n (by simp)
  rw [List.append_nil] at digits
  rw [number?, trimStart_padded]
  simp only [taken, digits, isEmpty_padded, Bool.false_eq_true, if_false, digitsValue_padded,
    List.drop_left]

theorem year?_of_isDigit {c : Char} (digit : isDigit c = true) (cs : List Char) :
    year? (c :: cs) = (number? 4 (c :: cs)).map fun (n, rest) => ((n : Int), rest) := by
  have kept : trimStart (c :: cs) = c :: cs := by
    rw [trimStart, List.dropWhile_cons, isBlank_of_isDigit digit]
    rfl
  have minus : c ≠ '-' := by
    rintro rfl
    cases digit
  have plus : c ≠ '+' := by
    rintro rfl
    cases digit
  unfold year?
  rw [kept]
  split
  · rename_i same
    exact absurd (List.cons.inj same).1 minus
  · rename_i same
    exact absurd (List.cons.inj same).1 plus
  · rfl

theorem year?_yearText (year : Int) (rest : List Char) :
    year? ((Instant.yearText year).toList ++ '-' :: rest) = some (year, '-' :: rest) := by
  have stops : ∀ c, ('-' :: rest).head? = some c → isDigit c = false := by
    intro c same
    cases same
    decide
  unfold Instant.yearText
  split
  · rename_i plain
    have small : year.toNat < 10000 := by omega
    have read : number? 4 ((padded 4 year.toNat).toList ++ '-' :: rest) =
        some (year.toNat, '-' :: rest) := number?_padded (by decide) small _
    have value : ((year.toNat : Nat) : Int) = year := Int.toNat_of_nonneg plain.1
    cases written : (padded 4 year.toNat).toList with
    | nil => exact absurd written (padded_ne_nil 4 year.toNat)
    | cons c cs =>
      have digit : isDigit c = true := isDigit_of_mem_padded (written ▸ List.mem_cons_self)
      rw [written] at read
      rw [List.cons_append, year?_of_isDigit digit, ← List.cons_append, read, Option.map_some]
      simp only [value]
  · rename_i signed
    have digits := takeWhile_padded 4 year.natAbs stops
    split
    · rename_i negative
      have value : -((year.natAbs : Nat) : Int) = year := by omega
      have text : ("-" ++ padded 4 year.natAbs).toList ++ '-' :: rest =
          '-' :: ((padded 4 year.natAbs).toList ++ '-' :: rest) := by simp
      have kept (cs : List Char) : trimStart ('-' :: cs) = '-' :: cs := rfl
      rw [text, year?, kept]
      simp only [digits, isEmpty_padded, Bool.false_eq_true, if_false, digitsValue_padded,
        List.drop_left, Option.map_some, value]
    · rename_i positive
      have value : ((year.natAbs : Nat) : Int) = year := by omega
      have text : ("+" ++ padded 4 year.natAbs).toList ++ '-' :: rest =
          '+' :: ((padded 4 year.natAbs).toList ++ '-' :: rest) := by simp
      have kept (cs : List Char) : trimStart ('+' :: cs) = '+' :: cs := rfl
      rw [text, year?, kept]
      simp only [digits, isEmpty_padded, Bool.false_eq_true, if_false, digitsValue_padded,
        List.drop_left, Option.map_some, value]

/-- A fraction of `k` digits is filled up to nine. -/
theorem fraction?_padded {k value : Nat} (positive : 0 < k) (short : k ≤ 9)
    (small : value < Nat.pow 10 k) (stops : ∀ c, rest.head? = some c → isDigit c = false) :
    fraction? ('.' :: ((padded k value).toList ++ rest)) = some (value * Nat.pow 10 (9 - k), rest) := by
  have digits := takeWhile_padded k value stops
  have length := length_padded positive small
  have filled : ((padded k value).toList ++ List.replicate 9 '0').take 9 =
      (padded k value).toList ++ List.replicate (9 - k) '0' := by
    have rest : min (9 - k) 9 = 9 - k := Nat.min_eq_left (Nat.sub_le 9 k)
    rw [List.take_append, length, List.take_of_length_le (by omega), List.take_replicate, rest]
  unfold fraction?
  simp only [digits, isEmpty_padded, Bool.false_eq_true, if_false, filled,
    digitsValue_append_zeros, digitsValue_padded, List.drop_left]

theorem fraction?_fractionText {nano : Nat} (small : nano < 1000000000) :
    fraction? ((Instant.fractionText nano).toList ++ ['Z']) = some (nano, ['Z']) := by
  have stops : ∀ c, ['Z'].head? = some c → isDigit c = false := by
    intro c same
    cases same
    decide
  have text (k value : Nat) : ("." ++ padded k value).toList ++ ['Z'] =
      '.' :: ((padded k value).toList ++ ['Z']) := by simp
  unfold Instant.fractionText
  split
  · rename_i zero
    rw [zero]
    rfl
  split
  · rename_i thousands
    have value : nano / 1000000 * Nat.pow 10 (9 - 3) = nano :=
      Nat.div_mul_cancel (Nat.dvd_of_mod_eq_zero thousands)
    have short : nano / 1000000 < 1000 := by omega
    rw [text, fraction?_padded (by decide) (by decide) short stops, value]
  split
  · rename_i thousands
    have value : nano / 1000 * Nat.pow 10 (9 - 6) = nano :=
      Nat.div_mul_cancel (Nat.dvd_of_mod_eq_zero thousands)
    have short : nano / 1000 < 1000000 := by omega
    rw [text, fraction?_padded (by decide) (by decide) short stops, value]
  · have value : nano * Nat.pow 10 (9 - 9) = nano := Nat.mul_one nano
    rw [text, fraction?_padded (by decide) (by decide) small stops, value]

end Parse

/-! ### Instants -/

namespace Instant

theorem bind_of_eq_some {α β : Type} {x : Option α} {a : α} (h : x = some a) (f : α → Option β) :
    (x >>= f) = f a := by
  rw [h]
  rfl

theorem monthLength_le (year : Int) (month : Nat) : monthLength year month ≤ 31 := by
  unfold monthLength
  split
  · split <;> decide
  split <;> decide

theorem of?_parts (i : Instant) : of? i.date i.hour i.minute i.second i.nano = some i :=
  dif_pos ⟨i.hour_lt, i.minute_lt, i.second_le, i.nano_lt⟩

theorem date_of?_parts (d : Date) : Date.of? d.year d.month d.day = some d :=
  dif_pos ⟨d.year_range, d.month_range, d.day_range⟩

theorem fromLocal?_zero (i : Instant) : i.fromLocal? 0 = some i := by
  have hour := i.hour_lt
  have minute := i.minute_lt
  have later : ¬ (60 * (i.hour : Int) + i.minute - 0 < 0) := by omega
  have earlier : ¬ (1440 ≤ 60 * (i.hour : Int) + i.minute - 0) := by omega
  have ofDay : ((60 * (i.hour : Int) + i.minute - 0) % 1440).toNat = 60 * i.hour + i.minute := by
    omega
  have hours : (60 * i.hour + i.minute) / 60 = i.hour := by omega
  have minutes : (60 * i.hour + i.minute) % 60 = i.minute := by omega
  unfold fromLocal?
  simp only [later, earlier, if_false, Option.bind_eq_bind, Option.bind_some, ofDay, hours, minutes]
  exact i.of?_parts

theorem toList_text (i : Instant) : i.text.toList =
    (yearText i.date.year).toList ++ '-' :: ((padded 2 i.date.month).toList ++ '-' ::
      ((padded 2 i.date.day).toList ++ 'T' :: ((padded 2 i.hour).toList ++ ':' ::
        ((padded 2 i.minute).toList ++ ':' :: ((padded 2 i.second).toList ++
          ((fractionText i.nano).toList ++ ['Z'])))))) := by
  simp [text, bareText]

theorem parse?_text (i : Instant) : parse? i.text = some i := by
  have month : i.date.month < 100 := Nat.lt_of_le_of_lt i.date.month_range.2 (by decide)
  have day : i.date.day < 100 :=
    Nat.lt_of_le_of_lt (Nat.le_trans i.date.day_range.2 (monthLength_le _ _)) (by decide)
  have hour : i.hour < 100 := Nat.lt_trans i.hour_lt (by decide)
  have minute : i.minute < 100 := Nat.lt_trans i.minute_lt (by decide)
  have second : i.second < 100 := Nat.lt_of_le_of_lt i.second_le (by decide)
  have dash (cs : List Char) : Parse.mark? '-' ('-' :: cs) = some cs := rfl
  have colon (cs : List Char) : Parse.mark? ':' (':' :: cs) = some cs := rfl
  have separator (cs : List Char) : Parse.separator? ('T' :: cs) = some cs := rfl
  have offset : Parse.offset? ['Z'] = some (0, []) := rfl
  have none : (trimStart []).isEmpty = true := rfl
  have two {n : Nat} (small : n < 100) (rest : List Char) :
      Parse.number? 2 ((padded 2 n).toList ++ rest) = some (n, rest) :=
    Parse.number?_padded (by decide) small rest
  unfold parse?
  rw [toList_text]
  refine (bind_of_eq_some (Parse.year?_yearText _ _) _).trans ?_
  refine (bind_of_eq_some (dash _) _).trans ?_
  refine (bind_of_eq_some (two month _) _).trans ?_
  refine (bind_of_eq_some (dash _) _).trans ?_
  refine (bind_of_eq_some (two day _) _).trans ?_
  refine (bind_of_eq_some (separator _) _).trans ?_
  refine (bind_of_eq_some (two hour _) _).trans ?_
  refine (bind_of_eq_some (colon _) _).trans ?_
  refine (bind_of_eq_some (two minute _) _).trans ?_
  refine (bind_of_eq_some (colon _) _).trans ?_
  refine (bind_of_eq_some (two second _) _).trans ?_
  refine (bind_of_eq_some (Parse.fraction?_fractionText i.nano_lt) _).trans ?_
  refine (bind_of_eq_some offset _).trans ?_
  refine (if_pos none).trans ?_
  refine (bind_of_eq_some (date_of?_parts i.date) _).trans ?_
  exact (bind_of_eq_some i.of?_parts _).trans i.fromLocal?_zero

end Instant

end ArtifactTrust.Time
