import ArtifactTrust.Json.Printer
import ArtifactTrust.Proofs.Text.Decimal
import Mathlib.Data.List.Basic

/-!
# The tokens of what is written

A number ends only where something that cannot belong to it follows, so the state behind a token is
any that `Settled` admits, and marks are read alike in all of them.
-/

namespace ArtifactTrust.Json

set_option autoImplicit false

variable {found : List Token} {bytes rest : List UInt8} {tokens more : List Token} {b : UInt8}
  {t : Token}

/-! ### Reading step by step -/

section

variable {σ α : Type} {step : σ → α → Option σ} {s s' : σ}

theorem foldlM_cons_some {a : α} (first : step s a = some s') (rest : List α) :
    (a :: rest).foldlM step s = rest.foldlM step s' := by
  rw [List.foldlM_cons, first, Option.bind_eq_bind, Option.bind_some]

theorem foldlM_append_some {part : List α} (first : part.foldlM step s = some s')
    (rest : List α) : (part ++ rest).foldlM step s = rest.foldlM step s' := by
  rw [List.foldlM_append, first, Option.bind_eq_bind, Option.bind_some]

end

/-! ### Settled states -/

/-- All that was read is found: either nothing is half read, or only a number that may end. -/
inductive Lexing.Settled : Lexing → List Token → Prop where
  | between (found : List Token) : Settled ⟨found, .between⟩ found
  | number (found : List Token) (part : NumberPart) (lexeme : List UInt8)
      (complete : part.complete = true) :
      Settled ⟨found, .number part lexeme⟩ (numberToken lexeme.reverse :: found)

/-- The bytes that are tokens by themselves. -/
inductive Mark : UInt8 → Token → Prop where
  | openArray : Mark 91 .openArray
  | closeArray : Mark 93 .closeArray
  | openObject : Mark 123 .openObject
  | closeObject : Mark 125 .closeObject
  | comma : Mark 44 .comma
  | colon : Mark 58 .colon

theorem Mark.start (mark : Mark b t) (found : List Token) :
    Lexing.start found b = some ⟨t :: found, .between⟩ := by
  cases mark <;> rfl

theorem Mark.ends (mark : Mark b t) (part : NumberPart) : part.next b = none := by
  cases mark <;> cases part <;> decide

theorem Lexing.Settled.next {s : Lexing} (settled : s.Settled found) (mark : Mark b t) :
    s.next b = some ⟨t :: found, .between⟩ := by
  cases settled with
  | between => exact mark.start found
  | number earlier part lexeme complete =>
    simp only [Lexing.next, mark.ends part, complete, if_true]
    exact mark.start _

theorem Lexing.Settled.finish {s : Lexing} (settled : s.Settled found) :
    s.finish = some found.reverse := by
  cases settled with
  | between => rfl
  | number earlier part lexeme complete =>
    simp only [Lexing.finish, complete, if_true]

/-! ### Bytes that spell tokens -/

/-- The bytes are cut into the tokens, wherever they stand. -/
def Spell (bytes : List UInt8) (tokens : List Token) : Prop :=
  ∀ found, ∃ s : Lexing, bytes.foldlM Lexing.next ⟨found, .between⟩ = some s ∧
    s.Settled (tokens.reverse ++ found)

theorem Spell.tokens? (spell : Spell bytes tokens) : tokens? bytes = some tokens := by
  obtain ⟨s, read, settled⟩ := spell []
  unfold Json.tokens?
  rw [read]
  simp [settled.finish]

theorem Spell.nil : Spell [] [] := fun found => ⟨_, rfl, .between found⟩

theorem Spell.mark (spell : Spell bytes tokens) (mark : Mark b t) (after : Spell rest more) :
    Spell (bytes ++ b :: rest) (tokens ++ t :: more) := by
  intro found
  obtain ⟨s, read, settled⟩ := spell found
  obtain ⟨s', read', settled'⟩ := after (t :: (tokens.reverse ++ found))
  refine ⟨s', ?_, ?_⟩
  · rw [foldlM_append_some read, foldlM_cons_some (settled.next mark), read']
  · simpa using settled'

/-! ### Texts -/

/-- A control character without a letter of its own is written by its number. -/
def pieceOf (b : UInt8) : Piece :=
  if b < 32 ∧ b ∉ [8, 9, 10, 12, 13] then .unit b.toNat else .byte b

theorem assemble_unit {u : Nat} (small : u < 0xd800) (rest : List Piece) :
    assemble (.unit u :: rest) = unitBytes u ++ assemble rest := by
  have single : ¬ 0xd800 ≤ u := by omega
  cases rest with
  | nil => rfl
  | cons next rest =>
    cases next with
    | byte b => rfl
    | unit low => simp [assemble, single]

theorem assemble_map_pieceOf (content : List UInt8) :
    assemble (content.map pieceOf) = content := by
  induction content with
  | nil => rfl
  | cons b rest ih =>
    rw [List.map_cons]
    by_cases control : b < 32 ∧ b ∉ [8, 9, 10, 12, 13]
    · have small : b.toNat < 32 := UInt8.lt_iff_toNat_lt.mp control.1
      have piece : pieceOf b = .unit b.toNat := if_pos control
      rw [piece, assemble_unit (by omega), ih]
      simp [unitBytes, show b.toNat < 0x80 by omega]
    · have piece : pieceOf b = .byte b := if_neg control
      rw [piece, assemble, ih]

theorem hexDigit?_hexByte {n : Nat} (h : n < 16) : hexDigit? (hexByte n) = some n := by
  revert n
  decide

/-- A numeric escape, whose first two digits are zeros. -/
theorem foldlM_numeric (found : List Token) (pieces : List Piece) {u : Nat} (small : u < 256) :
    [92, 117, 48, 48, hexByte (u / 16), hexByte (u % 16)].foldlM Lexing.next
      ⟨found, .text pieces⟩ = some ⟨found, .text (.unit u :: pieces)⟩ := by
  have start : [92, 117, 48, 48].foldlM Lexing.next ⟨found, .text pieces⟩ =
      some ⟨found, .hex pieces 1 0⟩ := rfl
  have high := hexDigit?_hexByte (n := u / 16) (by omega)
  have low := hexDigit?_hexByte (n := u % 16) (by omega)
  have value : 16 * (u / 16) + u % 16 = u := Nat.div_add_mod u 16
  change ([92, 117, 48, 48] ++ [hexByte (u / 16), hexByte (u % 16)]).foldlM _ _ = _
  rw [foldlM_append_some start]
  simp [Lexing.next, high, low, value]

theorem foldlM_escape (found : List Token) (pieces : List Piece) (b : UInt8) :
    (escape b).foldlM Lexing.next ⟨found, .text pieces⟩ =
      some ⟨found, .text (pieceOf b :: pieces)⟩ := by
  by_cases quoted : b = 34 ∨ b = 92
  · rcases quoted with rfl | rfl <;> rfl
  by_cases lettered : b ∈ [8, 9, 10, 12, 13]
  · simp only [List.mem_cons, List.not_mem_nil, or_false] at lettered
    rcases lettered with rfl | rfl | rfl | rfl | rfl <;> rfl
  rw [not_or] at quoted
  simp only [List.mem_cons, List.not_mem_nil, or_false, not_or] at lettered
  obtain ⟨h8, h9, h10, h12, h13⟩ := lettered
  by_cases control : b < 32
  · have piece : pieceOf b = .unit b.toNat := if_pos ⟨control, by simp [h8, h9, h10, h12, h13]⟩
    have written : escape b = [92, 117, 48, 48, hexByte (b.toNat / 16), hexByte (b.toNat % 16)] := by
      simp [escape, quoted, h8, h9, h10, h12, h13, control]
    rw [piece, written]
    exact foldlM_numeric found pieces b.toNat_lt
  · have piece : pieceOf b = .byte b := if_neg fun small => control small.1
    have written : escape b = [b] := by
      simp [escape, quoted, h8, h9, h10, h12, h13, control]
    rw [piece, written]
    simp [Lexing.next, quoted, control]

theorem foldlM_flatMap_escape (found : List Token) (pieces : List Piece) (content : List UInt8) :
    (content.flatMap escape).foldlM Lexing.next ⟨found, .text pieces⟩ =
      some ⟨found, .text ((content.map pieceOf).reverse ++ pieces)⟩ := by
  induction content generalizing pieces with
  | nil => rfl
  | cons b rest ih =>
    rw [List.flatMap_cons, foldlM_append_some (foldlM_escape found pieces b), ih]
    simp

theorem spell_quote (content : List UInt8) : Spell (quote content) [.text content] := by
  intro found
  refine ⟨⟨.text content :: found, .between⟩, ?_, .between _⟩
  have opens : Lexing.next ⟨found, .between⟩ 34 = some ⟨found, .text []⟩ := rfl
  rw [quote, foldlM_cons_some opens, foldlM_append_some (foldlM_flatMap_escape found [] content)]
  simp [Lexing.next, ← List.map_reverse, assemble_map_pieceOf]

/-! ### Numbers -/

def IsDigit (b : UInt8) : Prop := 48 ≤ b ∧ b ≤ 57

theorem start_digit (found : List Token) (digit : IsDigit b) (nonzero : b ≠ 48) :
    Lexing.start found b = some ⟨found, .number .digits [b]⟩ := by
  have other {m : UInt8} (out : m < 48 ∨ 57 < m) : (b == m) = false := by
    rw [beq_eq_false_iff_ne]
    rintro rfl
    rcases out with low | high
    · exact absurd digit.1 (UInt8.not_le.mpr low)
    · exact absurd digit.2 (UInt8.not_le.mpr high)
  have positive : 49 ≤ b := by
    have low := UInt8.le_iff_toNat_le.mp digit.1
    have differs : b.toNat ≠ (48 : UInt8).toNat := fun same => nonzero (UInt8.toNat_inj.mp same)
    rw [UInt8.le_iff_toNat_le]
    change 48 ≤ b.toNat at low
    change b.toNat ≠ 48 at differs
    change 49 ≤ b.toNat
    omega
  have mark {m : UInt8} (listed : m ∈ [32, 10, 13, 9, 91, 93, 123, 125, 44, 58, 34, 45]) :
      (b == m) = false := by
    have outside : [32, 10, 13, 9, 91, 93, 123, 125, 44, 58, 34, 45].all
        (fun m : UInt8 => m < 48 || 57 < m) = true := by decide
    have out := List.all_eq_true.mp outside m listed
    simp only [Bool.or_eq_true, decide_eq_true_eq] at out
    exact other out
  simp [Lexing.start, mark, nonzero, positive, digit.2]

theorem foldlM_digits (found : List Token) (lexeme : List UInt8) {more : List UInt8}
    (digits : ∀ b ∈ more, IsDigit b) :
    more.foldlM Lexing.next ⟨found, .number .digits lexeme⟩ =
      some ⟨found, .number .digits (more.reverse ++ lexeme)⟩ := by
  induction more generalizing lexeme with
  | nil => rfl
  | cons b rest ih =>
    have first := digits b List.mem_cons_self
    have next : Lexing.next ⟨found, .number .digits lexeme⟩ b =
        some ⟨found, .number .digits (b :: lexeme)⟩ := by
      simp [Lexing.next, NumberPart.next, first.1, first.2]
    rw [foldlM_cons_some next, ih _ fun d mem => digits d (List.mem_cons_of_mem b mem)]
    simp

theorem toNat_of_digit {c : Char} (digit : Text.isDigit c = true) :
    (UInt8.ofNat c.toNat).toNat = c.toNat ∧ 48 ≤ c.toNat ∧ c.toNat ≤ 57 := by
  obtain ⟨low, high⟩ := Text.toNat_of_isDigit digit
  rw [UInt8.toNat_ofNat']
  exact ⟨Nat.mod_eq_of_lt (by omega), low, high⟩

theorem isDigit_of_mem_digits {n : Nat} (mem : b ∈ digits n) : IsDigit b := by
  obtain ⟨c, listed, rfl⟩ := List.mem_map.mp mem
  obtain ⟨same, low, high⟩ := toNat_of_digit (Text.isDigit_of_mem_toString listed)
  rw [IsDigit, UInt8.le_iff_toNat_le, UInt8.le_iff_toNat_le, same]
  exact ⟨low, high⟩

theorem decimalValue_digits (n : Nat) : decimalValue (digits n) = n := by
  have value (cs : List Char) (all : ∀ c ∈ cs, Text.isDigit c = true) :
      decimalValue (cs.map fun c => UInt8.ofNat c.toNat) = Text.digitsValue cs := by
    unfold decimalValue Text.digitsValue
    rw [List.foldl_map]
    refine List.foldl_ext _ _ 0 fun sum c mem => ?_
    rw [(toNat_of_digit (all c mem)).1]
  unfold digits
  rw [value _ fun c mem => Text.isDigit_of_mem_toString mem, Text.digitsValue_toString]

theorem digits_eq_cons {n : Nat} (positive : 0 < n) :
    ∃ b rest, digits n = b :: rest ∧ b ≠ 48 := by
  unfold digits
  cases spelled : (toString n).toList with
  | nil =>
    have length := Text.length_toString_pos n
    rw [spelled] at length
    exact absurd length (by decide)
  | cons c rest =>
    have first := Text.head?_toString_ne_zero positive
    have digit : Text.isDigit c = true :=
      Text.isDigit_of_mem_toString (spelled ▸ List.mem_cons_self)
    rw [spelled, List.head?_cons] at first
    refine ⟨UInt8.ofNat c.toNat, rest.map fun c => UInt8.ofNat c.toNat, rfl, ?_⟩
    intro zero
    have same := (toNat_of_digit digit).1
    rw [zero] at same
    exact first (congrArg some (Char.toNat_inj.mp same.symm))

theorem numberToken_digits (n : Nat) : numberToken (digits n) = .natural n := by
  have all : (digits n).all (fun b => 48 ≤ b && b ≤ 57) = true := by
    rw [List.all_eq_true]
    intro b mem
    have digit := isDigit_of_mem_digits mem
    simp [digit.1, digit.2]
  rw [numberToken, if_pos all, decimalValue_digits]

theorem spell_digits (n : Nat) : Spell (digits n) [.natural n] := by
  intro found
  rcases Nat.eq_zero_or_pos n with rfl | positive
  · exact ⟨⟨found, .number .zero [48]⟩, rfl, .number found .zero [48] rfl⟩
  · obtain ⟨b, rest, written, nonzero⟩ := digits_eq_cons positive
    have digit {d : UInt8} (mem : d ∈ b :: rest) : IsDigit d :=
      isDigit_of_mem_digits (written ▸ mem)
    have starts : Lexing.next ⟨found, .between⟩ b = some ⟨found, .number .digits [b]⟩ :=
      start_digit found (digit List.mem_cons_self) nonzero
    refine ⟨⟨found, .number .digits (rest.reverse ++ [b])⟩, ?_, ?_⟩
    · rw [written, foldlM_cons_some starts]
      exact foldlM_digits found [b] fun d mem => digit (List.mem_cons_of_mem b mem)
    · have settled := Lexing.Settled.number found .digits (rest.reverse ++ [b]) rfl
      have lexeme : (rest.reverse ++ [b]).reverse = digits n := by simp [written]
      rw [lexeme, numberToken_digits] at settled
      exact settled

end ArtifactTrust.Json
