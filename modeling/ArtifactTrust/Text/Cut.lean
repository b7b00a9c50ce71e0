/-!
# Cutting a text at a separator

A text is cut at the first or at the last occurrence of a character, or at all of them. The
separator itself belongs to neither side, so putting it back between the two sides gives the
text again, and the side that faces away from the chosen occurrence does not hold it.
-/

namespace ArtifactTrust.Text

def cutFirst (sep : Char) : List Char → Option (List Char × List Char)
  | [] => none
  | c :: cs =>
    if c = sep then some ([], cs)
    else (cutFirst sep cs).map fun (before, after) => (c :: before, after)

def cutLast (sep : Char) (cs : List Char) : Option (List Char × List Char) :=
  (cutFirst sep cs.reverse).map fun (after, before) => (before.reverse, after.reverse)

/-- The pieces between the occurrences of `sep`: one more than there are occurrences. -/
def pieces (sep : Char) : List Char → List (List Char)
  | [] => [[]]
  | c :: cs =>
    match pieces sep cs with
    | [] => [[c]]
    | p :: ps => if c = sep then [] :: p :: ps else (c :: p) :: ps

def joined (sep : Char) : List (List Char) → List Char
  | [] => []
  | [p] => p
  | p :: ps => p ++ sep :: joined sep ps

theorem cutFirst_eq_some {sep : Char} {cs before after : List Char}
    (h : cutFirst sep cs = some (before, after)) : cs = before ++ sep :: after ∧ sep ∉ before := by
  induction cs generalizing before with
  | nil => simp [cutFirst] at h
  | cons c cs ih =>
    by_cases hc : c = sep
    · simp only [cutFirst, hc, if_true, Option.some.injEq, Prod.mk.injEq] at h
      obtain ⟨rfl, rfl⟩ := h
      simp [hc]
    · simp only [cutFirst, hc, if_false, Option.map_eq_some_iff, Prod.mk.injEq] at h
      obtain ⟨⟨b, a⟩, hba, rfl, rfl⟩ := h
      obtain ⟨rfl, hb⟩ := ih hba
      simp only [List.cons_append, List.mem_cons, not_or, true_and]
      exact ⟨fun h => hc h.symm, hb⟩

theorem cutFirst_append {sep : Char} {before after : List Char} (h : sep ∉ before) :
    cutFirst sep (before ++ sep :: after) = some (before, after) := by
  induction before with
  | nil => simp [cutFirst]
  | cons c cs ih =>
    simp only [List.mem_cons, not_or] at h
    simp [cutFirst, ih h.2, Ne.symm h.1]

theorem cutFirst_eq_none {sep : Char} {cs : List Char} : cutFirst sep cs = none ↔ sep ∉ cs := by
  induction cs with
  | nil => simp [cutFirst]
  | cons c cs ih =>
    by_cases hc : c = sep
    · simp [cutFirst, hc]
    · simp [cutFirst, hc, ih, Ne.symm hc]

theorem cutLast_eq_some {sep : Char} {cs before after : List Char}
    (h : cutLast sep cs = some (before, after)) : cs = before ++ sep :: after ∧ sep ∉ after := by
  simp only [cutLast, Option.map_eq_some_iff, Prod.mk.injEq] at h
  obtain ⟨⟨a, b⟩, hab, rfl, rfl⟩ := h
  obtain ⟨hcs, ha⟩ := cutFirst_eq_some hab
  have := congrArg List.reverse hcs
  simp only [List.reverse_reverse, List.reverse_append, List.reverse_cons, List.append_assoc,
    List.singleton_append] at this
  exact ⟨this, by simpa using ha⟩

theorem cutLast_append {sep : Char} {before after : List Char} (h : sep ∉ after) :
    cutLast sep (before ++ sep :: after) = some (before, after) := by
  have : sep ∉ after.reverse := by simpa using h
  simp [cutLast, cutFirst_append this]

theorem cutLast_eq_none {sep : Char} {cs : List Char} : cutLast sep cs = none ↔ sep ∉ cs := by
  simp [cutLast, cutFirst_eq_none]

theorem pieces_ne_nil (sep : Char) (cs : List Char) : pieces sep cs ≠ [] := by
  cases cs with
  | nil => simp [pieces]
  | cons c cs =>
    simp only [pieces]
    split
    · simp
    · split <;> simp

theorem joined_pieces (sep : Char) (cs : List Char) : joined sep (pieces sep cs) = cs := by
  induction cs with
  | nil => rfl
  | cons c cs ih =>
    simp only [pieces]
    cases hp : pieces sep cs with
    | nil => exact absurd hp (pieces_ne_nil sep cs)
    | cons p ps =>
      rw [hp] at ih
      by_cases hc : c = sep
      · simp [hc, joined, ih]
      · cases ps with
        | nil => simpa [hc, joined] using ih
        | cons q qs => simpa [hc, joined] using ih

def cutFirst? (sep : Char) (s : String) : Option (String × String) :=
  (cutFirst sep s.toList).map fun (before, after) => (String.ofList before, String.ofList after)

def cutLast? (sep : Char) (s : String) : Option (String × String) :=
  (cutLast sep s.toList).map fun (before, after) => (String.ofList before, String.ofList after)

def holds (c : Char) (s : String) : Bool := s.toList.contains c

end ArtifactTrust.Text
