import ArtifactTrust.Text.Cut

/-!
# Cutting glued texts

Two sides that were glued together come back only if the right one does not hold the separator.
-/

namespace ArtifactTrust.Text

set_option autoImplicit false

variable {sep : Char} {a b p q s : String}

theorem cutFirst?_eq_some_iff :
    cutFirst? sep s = some (p, q) ↔ s = p ++ String.singleton sep ++ q ∧ sep ∉ p.toList := by
  unfold cutFirst?
  simp only [Option.map_eq_some_iff, Prod.mk.injEq, Prod.exists]
  constructor
  · rintro ⟨before, after, h, rfl, rfl⟩
    obtain ⟨hs, free⟩ := cutFirst_eq_some h
    refine ⟨String.toList_inj.mp ?_, by simpa using free⟩
    simpa using hs
  · rintro ⟨rfl, free⟩
    refine ⟨p.toList, q.toList, ?_, by simp, by simp⟩
    have cut : cutFirst sep (p.toList ++ sep :: q.toList) = some (p.toList, q.toList) :=
      cutFirst_append free
    simpa using cut

theorem cutLast?_eq_some_iff :
    cutLast? sep s = some (p, q) ↔ s = p ++ String.singleton sep ++ q ∧ sep ∉ q.toList := by
  unfold cutLast?
  simp only [Option.map_eq_some_iff, Prod.mk.injEq, Prod.exists]
  constructor
  · rintro ⟨before, after, h, rfl, rfl⟩
    obtain ⟨hs, free⟩ := cutLast_eq_some h
    refine ⟨String.toList_inj.mp ?_, by simpa using free⟩
    simpa using hs
  · rintro ⟨rfl, free⟩
    refine ⟨p.toList, q.toList, ?_, by simp, by simp⟩
    have cut : cutLast sep (p.toList ++ sep :: q.toList) = some (p.toList, q.toList) :=
      cutLast_append free
    simpa using cut

theorem cutLast?_eq_none_iff : cutLast? sep s = none ↔ sep ∉ s.toList := by
  unfold cutLast?
  rw [Option.map_eq_none_iff, cutLast_eq_none]

theorem cutLast?_glued (free : sep ∉ b.toList) :
    cutLast? sep (a ++ String.singleton sep ++ b) = some (a, b) :=
  cutLast?_eq_some_iff.mpr ⟨rfl, free⟩

/-- The cut falls into a right side that holds the separator. -/
theorem cutLast?_glued_of_cut (cut : cutLast? sep b = some (p, q)) :
    cutLast? sep (a ++ String.singleton sep ++ b) =
      some (a ++ String.singleton sep ++ p, q) := by
  obtain ⟨rfl, free⟩ := cutLast?_eq_some_iff.mp cut
  refine cutLast?_eq_some_iff.mpr ⟨?_, free⟩
  simp only [String.append_assoc]

/-- What is behind the last separator is that of the right side, whatever the left side is. -/
theorem cutLast?_glued_snd (sep : Char) (a a' b : String) :
    (cutLast? sep (a ++ String.singleton sep ++ b)).map Prod.snd =
      (cutLast? sep (a' ++ String.singleton sep ++ b)).map Prod.snd := by
  cases h : cutLast? sep b with
  | none =>
    have free := cutLast?_eq_none_iff.mp h
    rw [cutLast?_glued free, cutLast?_glued free]
    rfl
  | some sides =>
    obtain ⟨p, q⟩ := sides
    rw [cutLast?_glued_of_cut h, cutLast?_glued_of_cut h]
    rfl

theorem append_ne_append_of_head? {a b x y : String} {c d : Char} (ha : a.toList.head? = some c)
    (hb : b.toList.head? = some d) (h : c ≠ d) : a ++ x ≠ b ++ y := by
  intro e
  have first := congrArg (fun text => text.toList.head?) e
  simp only [String.toList_append, List.head?_append, ha, hb, Option.some_or] at first
  exact h (Option.some.inj first)

theorem pieces_of_notMem {piece : List Char} (free : sep ∉ piece) :
    pieces sep piece = [piece] := by
  induction piece with
  | nil => rfl
  | cons c rest ih =>
    rw [List.mem_cons, not_or] at free
    rw [pieces, ih free.2]
    exact if_neg (Ne.symm free.1)

theorem pieces_append {piece cs : List Char} (free : sep ∉ piece) :
    pieces sep (piece ++ sep :: cs) = piece :: pieces sep cs := by
  induction piece with
  | nil =>
    rw [List.nil_append, pieces]
    cases split : pieces sep cs with
    | nil => exact absurd split (pieces_ne_nil sep cs)
    | cons first others => exact if_pos rfl
  | cons c rest ih =>
    rw [List.mem_cons, not_or] at free
    rw [List.cons_append, pieces, ih free.2]
    exact if_neg (Ne.symm free.1)

theorem joined_cons {part : List Char} {rest : List (List Char)} (some : rest ≠ []) :
    joined sep (part :: rest) = part ++ sep :: joined sep rest := by
  cases rest with
  | nil => exact absurd rfl some
  | cons next others => rfl

theorem joined_append {ps qs : List (List Char)} (hp : ps ≠ []) (hq : qs ≠ []) :
    joined sep (ps ++ qs) = joined sep ps ++ sep :: joined sep qs := by
  induction ps with
  | nil => exact absurd rfl hp
  | cons p rest ih =>
    by_cases single : rest = []
    · subst single
      exact joined_cons hq
    · have more : rest ++ qs ≠ [] := fun none => single (List.append_eq_nil_iff.mp none).1
      rw [List.cons_append, joined_cons more, ih single, joined_cons single, List.append_assoc,
        List.cons_append]

theorem mem_joined {c : Char} {parts : List (List Char)} (mem : c ∈ joined sep parts) :
    c = sep ∨ ∃ p ∈ parts, c ∈ p := by
  induction parts with
  | nil => cases mem
  | cons part rest ih =>
    by_cases single : rest = []
    · subst single
      exact .inr ⟨part, List.mem_cons_self, mem⟩
    rw [joined_cons single] at mem
    rcases List.mem_append.mp mem with mem | mem
    · exact .inr ⟨part, List.mem_cons_self, mem⟩
    rcases List.mem_cons.mp mem with rfl | mem
    · exact .inl rfl
    rcases ih mem with rfl | ⟨p, listed, hc⟩
    · exact .inl rfl
    · exact .inr ⟨p, List.mem_cons_of_mem part listed, hc⟩

/-- Texts without the separator come back from the text that they are joined to. -/
theorem pieces_joined {parts : List (List Char)} (free : ∀ p ∈ parts, sep ∉ p)
    (some : parts ≠ []) : pieces sep (joined sep parts) = parts := by
  induction parts with
  | nil => exact absurd rfl some
  | cons part rest ih =>
    have first := free part List.mem_cons_self
    by_cases single : rest = []
    · subst single
      exact pieces_of_notMem first
    · rw [joined_cons single, pieces_append first,
        ih (fun p mem => free p (List.mem_cons_of_mem part mem)) single]

theorem subset_of_mem_pieces {piece cs : List Char} (mem : piece ∈ pieces sep cs) :
    piece ⊆ cs := by
  induction cs generalizing piece with
  | nil =>
    rw [pieces, List.mem_singleton] at mem
    rw [mem]
    exact List.Subset.refl []
  | cons c rest ih =>
    rw [pieces] at mem
    cases split : pieces sep rest with
    | nil => exact absurd split (pieces_ne_nil sep rest)
    | cons first others =>
      rw [split] at ih mem
      by_cases cuts : c = sep
      · simp only [cuts, if_true] at mem
        rcases List.mem_cons.mp mem with rfl | mem
        · exact List.nil_subset _
        · exact List.subset_cons_of_subset _ (ih mem)
      · simp only [cuts, if_false] at mem
        rcases List.mem_cons.mp mem with rfl | mem
        · exact List.cons_subset_cons c (ih List.mem_cons_self)
        · exact List.subset_cons_of_subset c (ih (List.mem_cons_of_mem first mem))

end ArtifactTrust.Text
