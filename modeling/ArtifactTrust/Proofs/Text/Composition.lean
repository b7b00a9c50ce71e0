import ArtifactTrust.Text.Composition

/-!
# Plain characters and composition

Below the first mark nothing is taken apart, put into order or put together.
-/

namespace ArtifactTrust.Text.Composition

set_option autoImplicit false

def firstMark : Nat := 0x300

/-- A character that is neither a mark nor made of others. -/
def Plain (c : Char) : Prop := c.toNat < 0xc0

theorem Plain.below_marks {c : Char} (plain : Plain c) : c.toNat < firstMark :=
  Nat.lt_trans plain (by decide)

theorem classIn_of_lt {n low high k : Nat} {rest : List (Nat × Nat × Nat)} (below : n < low)
    (ascends : low ≤ high) : classIn n ((low, high, k) :: rest) = 0 := by
  rw [classIn, if_pos (Nat.le_trans (Nat.le_of_lt below) ascends), if_neg (Nat.not_le_of_gt below)]

theorem combiningClass_of_plain {c : Char} (plain : Plain c) : combiningClass c = 0 :=
  classIn_of_lt plain.below_marks (by decide)

theorem firstMark_le_of_mem_pairTexts : ∀ entry ∈ pairTexts, firstMark ≤ entry.1 := by
  decide +kernel

theorem pair?_of_plain {second : Char} (plain : Plain second) (first : Char) :
    pair? first second = none := by
  have unpaired : pairTexts.filter (fun entry => entry.1 = second.toNat) = [] := by
    apply List.filter_eq_nil_iff.mpr
    intro entry mem
    have mark := firstMark_le_of_mem_pairTexts entry mem
    have below := plain.below_marks
    simp only [decide_eq_true_eq]
    omega
  unfold pair?
  rw [unpaired]
  rfl

theorem syllable?_of_plain {second : Char} (plain : Plain second) (first : Char) :
    syllable? first second = none := by
  unfold Plain at plain
  have vowel : ¬ firstVowel ≤ second.toNat := by
    unfold firstVowel
    omega
  have trailing : ¬ beforeTrailing < second.toNat := by
    unfold beforeTrailing
    omega
  simp [syllable?, vowel, trailing]

theorem place_of_class_zero {c : Char} {cs : List Char}
    (zero : ∀ d ∈ cs, combiningClass d = 0) : place c cs = c :: cs := by
  cases cs with
  | nil => rfl
  | cons d rest =>
    rw [place, if_neg]
    rw [zero d List.mem_cons_self]
    exact fun h => absurd h.1 (Nat.lt_irrefl 0)

theorem ordered_of_class_zero {cs : List Char} (zero : ∀ c ∈ cs, combiningClass c = 0) :
    ordered cs = cs := by
  induction cs with
  | nil => rfl
  | cons c rest ih =>
    have later := ih fun d mem => zero d (List.mem_cons_of_mem c mem)
    unfold ordered at later ⊢
    rw [List.foldr_cons, later]
    exact place_of_class_zero fun d mem => zero d (List.mem_cons_of_mem c mem)

theorem composeFrom_of_plain {c : Char} {cs : List Char} (plain : ∀ d ∈ cs, Plain d) :
    composeFrom c [] cs = c :: cs := by
  induction cs generalizing c with
  | nil => rfl
  | cons d rest ih =>
    have first := plain d List.mem_cons_self
    have later := ih (c := d) fun e mem => plain e (List.mem_cons_of_mem d mem)
    rw [composeFrom]
    simp only [List.all_nil, if_true, whole?, syllable?_of_plain first, pair?_of_plain first,
      Option.none_or, combiningClass_of_plain first, later]
    rfl

theorem composed_of_plain {cs : List Char} (plain : ∀ c ∈ cs, Plain c) : composed cs = cs := by
  have whole : cs.flatMap decomposed = cs := by
    induction cs with
    | nil => rfl
    | cons c rest ih =>
      have first : decomposed c = [c] := if_pos (plain c List.mem_cons_self)
      rw [List.flatMap_cons, first, ih fun d mem => plain d (List.mem_cons_of_mem c mem)]
      rfl
  unfold composed
  rw [whole, ordered_of_class_zero fun c mem => combiningClass_of_plain (plain c mem)]
  cases cs with
  | nil => rfl
  | cons c rest =>
    rw [compose, if_pos (combiningClass_of_plain (plain c List.mem_cons_self))]
    exact composeFrom_of_plain fun d mem => plain d (List.mem_cons_of_mem c mem)

end ArtifactTrust.Text.Composition
