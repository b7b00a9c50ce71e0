import ArtifactTrust.Proofs.Except
import ArtifactTrust.Proofs.Text.Decimal
import ArtifactTrust.Reference
import Mathlib.Computability.Language
import Mathlib.Data.List.Chain
import Mathlib.Data.List.TakeWhile

/-!
# The language of repository components

In the grammar a separator is a period, one or two underscores, or dashes. The check lets mixtures
of separators pass, up to those that hold one of two texts.
-/

namespace ArtifactTrust.Reference

set_option autoImplicit false

open scoped Computability

/-! ### Grammars of components -/

def IsRunCharacter (c : Char) : Prop := c.isLower = true ∨ c.isDigit = true

instance : DecidablePred IsRunCharacter :=
  fun c => inferInstanceAs (Decidable (c.isLower = true ∨ c.isDigit = true))

def IsSeparator (c : Char) : Prop := c ∈ ['.', '_', '-']

instance : DecidablePred IsSeparator := fun c => inferInstanceAs (Decidable (c ∈ ['.', '_', '-']))

/-- The pattern `[a-z0-9]+`. -/
def runs : Language Char := {r | r ≠ [] ∧ ∀ c ∈ r, IsRunCharacter c}

/-- The pattern `[.]|_|__|-+`. -/
def separators : Language Char :=
  {s | s = ['.'] ∨ s = ['_'] ∨ s = ['_', '_'] ∨ ∃ n, s = List.replicate (n + 1) '-'}

/-- Periods, underscores and dashes in any order, without two periods or three underscores in a
row. -/
def mixtures : Language Char :=
  {s | s ≠ [] ∧ (∀ c ∈ s, IsSeparator c) ∧ ¬ ['.', '.'] <:+: s ∧ ¬ ['_', '_', '_'] <:+: s}

/-- Runs with a text of a language between any two that follow each other. -/
def runsJoinedBy (between : Language Char) : Language Char := runs * (between * runs)∗

/-- The pattern `[a-z0-9]+(([.]|_|__|-+)[a-z0-9]+)*`. -/
def components : Language Char := runsJoinedBy separators

/-- No two different separators stand next to each other. -/
def Unmixed (component : List Char) : Prop :=
  component.IsChain fun c d => IsSeparator c → IsSeparator d → c = d

variable {between : Language Char} {component r s rest : List Char} {c : Char}

theorem IsSeparator.not_isRunCharacter (h : IsSeparator c) : ¬ IsRunCharacter c := by
  unfold IsRunCharacter
  simp only [IsSeparator, List.mem_cons, List.not_mem_nil, or_false] at h
  rcases h with rfl | rfl | rfl <;> decide

theorem isLowerAlphanumeric_iff : isLowerAlphanumeric c = true ↔ IsRunCharacter c := by
  have lower : isLower c = c.isLower := rfl
  rw [isLowerAlphanumeric, lower, Text.isDigit_eq, Bool.or_eq_true, IsRunCharacter]

theorem contains_iff {part cs : List Char} : contains part cs = true ↔ part <:+: cs := by
  induction cs with
  | nil => rw [contains, List.isEmpty_iff, List.infix_nil]
  | cons c cs ih =>
    rw [contains, Bool.or_eq_true, ih, List.isPrefixOf_iff_prefix, List.infix_cons_iff]

/-! ### Joining -/

theorem runsJoinedBy_eq (between : Language Char) :
    runsJoinedBy between = runs + runs * between * runsJoinedBy between := by
  have unfolded := Language.one_add_self_mul_kstar_eq_kstar (between * runs)
  unfold runsJoinedBy
  nth_rewrite 1 [← unfolded]
  rw [mul_add, mul_one]
  simp only [mul_assoc]

theorem mem_runsJoinedBy_of_run (h : r ∈ runs) : r ∈ runsJoinedBy between := by
  rw [runsJoinedBy_eq]
  exact .inl h

theorem join_mem_runsJoinedBy (first : r ∈ runs) (second : s ∈ between)
    (others : rest ∈ runsJoinedBy between) : r ++ s ++ rest ∈ runsJoinedBy between := by
  rw [runsJoinedBy_eq]
  exact .inr (Language.append_mem_mul (Language.append_mem_mul first second) others)

/-- What holds of every run, and of a run before a text that it holds of, holds of every text of
joined runs. -/
theorem runsJoinedBy_induction {motive : List Char → Prop} (run : ∀ r ∈ runs, motive r)
    (join : ∀ r ∈ runs, ∀ s ∈ between, ∀ rest, motive rest → motive (r ++ s ++ rest))
    (mem : component ∈ runsJoinedBy between) : motive component := by
  obtain ⟨r, first, others, listed, rfl⟩ := Language.mem_mul.mp mem
  obtain ⟨parts, rfl, each⟩ := Language.mem_kstar.mp listed
  clear mem listed
  induction parts generalizing r with
  | nil =>
    rw [List.flatten_nil, List.append_nil]
    exact run r first
  | cons part parts ih =>
    obtain ⟨s, second, next, follows, rfl⟩ := Language.mem_mul.mp (each part List.mem_cons_self)
    have later := ih next follows fun p mem => each p (List.mem_cons_of_mem _ mem)
    have joined := join r first s second _ later
    simpa only [List.flatten_cons, List.append_assoc] using joined

/-! ### What the check asks for -/

/-- The rules that a component is checked for. -/
structure ComponentRules (component : List Char) : Prop where
  first : ∃ c, component.head? = some c ∧ IsRunCharacter c
  last : ∃ c, component.getLast? = some c ∧ IsRunCharacter c
  characters : ∀ c ∈ component, IsRunCharacter c ∨ IsSeparator c
  periods : ¬ ['.', '.'] <:+: component
  underscores : ¬ ['_', '_', '_'] <:+: component

theorem error_else_eq_ok_iff {p : Prop} [Decidable p] {fault : ReferenceFault}
    {others : Except ReferenceFault Unit} :
    (if p then .error fault else others) = .ok () ↔ ¬ p ∧ others = .ok () := by
  by_cases h : p <;> simp [h]

theorem any_isLowerAlphanumeric_iff {edge? : Option Char} :
    edge?.any isLowerAlphanumeric = true ↔ ∃ c, edge? = some c ∧ IsRunCharacter c := by
  simp only [Option.any_eq_true, isLowerAlphanumeric_iff]

theorem checkComponent_eq_ok_iff :
    checkComponent component = .ok () ↔ ComponentRules component := by
  have characters : (component.all fun c =>
      isLowerAlphanumeric c || c == '.' || c == '_' || c == '-') = true ↔
      ∀ c ∈ component, IsRunCharacter c ∨ IsSeparator c := by
    simp only [List.all_eq_true, Bool.or_eq_true, beq_iff_eq, isLowerAlphanumeric_iff, IsSeparator,
      List.mem_cons, List.not_mem_nil, or_false, or_assoc]
  unfold checkComponent
  simp only [error_else_eq_ok_iff, Bool.not_eq_true', Bool.not_eq_false, Bool.and_eq_true,
    Bool.or_eq_true, not_or, contains_iff, characters, any_isLowerAlphanumeric_iff, and_true,
    List.isEmpty_iff]
  constructor
  · rintro ⟨-, ⟨first, last⟩, characters, periods, underscores⟩
    exact ⟨first, last, characters, periods, underscores⟩
  · intro rules
    refine ⟨?_, ⟨rules.first, rules.last⟩, rules.characters, rules.periods, rules.underscores⟩
    rintro rfl
    obtain ⟨c, none, -⟩ := rules.first
    cases none

/-! ### Separators in a row -/

section Infixes

variable {part a b : List Char}

/-- A text of separators does not reach into a run in front of it. -/
theorem infix_of_infix_run_append (filled : part ≠ []) (separate : ∀ c ∈ part, IsSeparator c)
    (run : ∀ c ∈ a, IsRunCharacter c) (within : part <:+: a ++ b) : part <:+: b := by
  induction a with
  | nil => exact within
  | cons c a ih =>
    rw [List.cons_append, List.infix_cons_iff] at within
    rcases within with start | later
    · cases part with
      | nil => exact absurd rfl filled
      | cons d part =>
        obtain ⟨rfl, -⟩ := List.cons_prefix_cons.mp start
        exact absurd (run d List.mem_cons_self) (separate d List.mem_cons_self).not_isRunCharacter
    · exact ih (fun d mem => run d (List.mem_cons_of_mem c mem)) later

/-- A text of separators lies on one side of a character of a run. -/
theorem infix_or_infix_of_infix_append_cons (filled : part ≠ [])
    (separate : ∀ c ∈ part, IsSeparator c) (run : IsRunCharacter c)
    (within : part <:+: a ++ c :: b) : part <:+: a ∨ part <:+: b := by
  have apart : c ∉ part := fun mem => (separate c mem).not_isRunCharacter run
  induction a with
  | nil =>
    rw [List.nil_append, List.infix_cons_iff] at within
    rcases within with start | later
    · cases part with
      | nil => exact absurd rfl filled
      | cons d part =>
        obtain ⟨rfl, -⟩ := List.cons_prefix_cons.mp start
        exact absurd List.mem_cons_self apart
    · exact .inr later
  | cons d a ih =>
    rw [List.cons_append, List.infix_cons_iff] at within
    rcases within with start | later
    · -- What begins with the first text is cut off before the character, which is not in it.
      have before : d :: a ++ [c] <+: d :: (a ++ c :: b) := ⟨b, by simp⟩
      rcases List.prefix_or_prefix_of_prefix start before with inside | past
      · rcases List.prefix_concat_iff.mp inside with whole | inside
        · exact absurd (whole ▸ by simp) apart
        · exact .inl inside.isInfix
      · exact absurd (past.subset (by simp)) apart
    · exact (ih later).imp_left fun inside => inside.trans (List.suffix_cons d a).isInfix

end Infixes

/-! ### The language that is accepted -/

theorem componentRules_of_run (run : r ∈ runs) : ComponentRules r := by
  obtain ⟨filled, characters⟩ := run
  have absent (part : List Char) (filled : part ≠ []) (separate : ∀ c ∈ part, IsSeparator c) :
      ¬ part <:+: r := by
    intro within
    have nothing := infix_of_infix_run_append (b := []) filled separate characters (by simpa)
    exact filled (List.infix_nil.mp nothing)
  refine ⟨?_, ?_, fun c mem => .inl (characters c mem), absent _ (by simp) (by simp [IsSeparator]),
    absent _ (by simp) (by simp [IsSeparator])⟩
  · exact ⟨r.head filled, List.head?_eq_some_head filled, characters _ (List.head_mem filled)⟩
  · exact ⟨r.getLast filled, List.getLast?_eq_some_getLast filled,
      characters _ (List.getLast_mem filled)⟩

theorem ComponentRules.join (run : r ∈ runs) (mixture : s ∈ mixtures)
    (rules : ComponentRules rest) : ComponentRules (r ++ s ++ rest) := by
  obtain ⟨filled, -, -⟩ := componentRules_of_run run
  obtain ⟨c, behind, character⟩ := rules.first
  obtain ⟨others, rfl⟩ := List.head?_eq_some_iff.mp behind
  obtain ⟨-, separate, periods, underscores⟩ := mixture
  -- A text that may not occur is in the separators or in the rest, where it is in neither.
  have absent (part : List Char) (filled : part ≠ []) (separate : ∀ c ∈ part, IsSeparator c)
      (mixture : ¬ part <:+: s) (rest : ¬ part <:+: c :: others) :
      ¬ part <:+: r ++ s ++ c :: others := by
    intro within
    rw [List.append_assoc] at within
    have later := infix_of_infix_run_append filled separate run.2 within
    rcases infix_or_infix_of_infix_append_cons filled separate character later with own | own
    · exact mixture own
    · exact rest (own.trans (List.suffix_cons c others).isInfix)
  refine ⟨?_, ?_, ?_, ?_, ?_⟩
  · obtain ⟨first, start, character⟩ := filled
    exact ⟨first, by simp [List.head?_append, start], character⟩
  · obtain ⟨last, ends, character⟩ := rules.last
    exact ⟨last, by rw [List.getLast?_append, ends]; rfl, character⟩
  · intro d mem
    rcases List.mem_append.mp mem with mem | mem
    · rcases List.mem_append.mp mem with mem | mem
      · exact .inl (run.2 d mem)
      · exact .inr (separate d mem)
    · exact rules.characters d mem
  · exact absent _ (by simp) (by simp [IsSeparator]) periods rules.periods
  · exact absent _ (by simp) (by simp [IsSeparator]) underscores rules.underscores

theorem exists_span (p : Char → Prop) [DecidablePred p] (cs : List Char) :
    ∃ a b, cs = a ++ b ∧ (∀ c ∈ a, p c) ∧ ∀ c, b.head? = some c → ¬ p c := by
  refine ⟨cs.takeWhile p, cs.dropWhile p, List.takeWhile_append_dropWhile.symm, ?_, ?_⟩
  · intro c mem
    simpa using List.mem_takeWhile_imp mem
  · intro c start holds
    have fails := List.head?_dropWhile_not (fun c => decide (p c)) cs
    rw [start] at fails
    simp [holds] at fails

/-- Between two runs of a component there is a mixture of separators. -/
theorem ComponentRules.mem_mixtures (rules : ComponentRules component) (within : s <:+: component)
    (filled : s ≠ []) (others : ∀ c ∈ s, ¬ IsRunCharacter c) : s ∈ mixtures := by
  refine ⟨filled, ?_, ?_, ?_⟩
  · exact fun c mem => (rules.characters c (within.subset mem)).resolve_left (others c mem)
  · exact fun own => rules.periods (own.trans within)
  · exact fun own => rules.underscores (own.trans within)

/-- What is left of a component from a character of a run on is a component. -/
theorem ComponentRules.of_append (rules : ComponentRules (r ++ rest))
    (resumes : ∃ c, rest.head? = some c ∧ IsRunCharacter c) : ComponentRules rest := by
  have filled : rest ≠ [] := by
    rintro rfl
    obtain ⟨c, none, -⟩ := resumes
    cases none
  have behind : rest <:+: r ++ rest := (List.suffix_append _ _).isInfix
  refine ⟨resumes, ?_, ?_, ?_, ?_⟩
  · obtain ⟨d, last, character⟩ := rules.last
    rw [List.getLast?_append_of_ne_nil _ filled] at last
    exact ⟨d, last, character⟩
  · exact fun d mem => rules.characters d (behind.subset mem)
  · exact fun own => rules.periods (own.trans behind)
  · exact fun own => rules.underscores (own.trans behind)

/-- A component begins with a run. If there is more, a mixture of separators and a component
follow. -/
theorem ComponentRules.splits (rules : ComponentRules component) :
    component ∈ runs ∨
      ∃ r ∈ runs, ∃ s ∈ mixtures, ∃ rest, ComponentRules rest ∧ component = r ++ s ++ rest := by
  obtain ⟨r, behind, rfl, run, stops⟩ := exists_span IsRunCharacter component
  have filled : r ≠ [] := by
    rintro rfl
    obtain ⟨c, start, character⟩ := rules.first
    exact stops c start character
  cases behind with
  | nil =>
    rw [List.append_nil]
    exact .inl ⟨filled, run⟩
  | cons c behind =>
    refine .inr ⟨r, ⟨filled, run⟩, ?_⟩
    obtain ⟨s, rest, same, others, resumes⟩ := exists_span (¬ IsRunCharacter ·) (c :: behind)
    rw [same, ← List.append_assoc] at rules ⊢
    have separates : s ≠ [] := by
      rintro rfl
      rw [List.nil_append] at same
      exact resumes c (same ▸ rfl) (stops c rfl)
    have more : rest ≠ [] := by
      rintro rfl
      obtain ⟨d, last, character⟩ := rules.last
      rw [List.append_nil, List.getLast?_append_of_ne_nil r separates] at last
      exact others d (List.mem_of_getLast? last) character
    have start := List.head?_eq_some_head more
    exact ⟨s, rules.mem_mixtures ⟨r, rest, rfl⟩ separates others, rest,
      rules.of_append ⟨_, start, not_not.mp (resumes _ start)⟩, rfl⟩

theorem ComponentRules.mem_runsJoinedBy (rules : ComponentRules component) :
    component ∈ runsJoinedBy mixtures := by
  -- What follows the first run and the separators behind it is shorter.
  induction size : component.length using Nat.strong_induction_on generalizing component with
  | _ n ih =>
    rcases rules.splits with run | ⟨r, run, s, mixture, rest, others, rfl⟩
    · exact mem_runsJoinedBy_of_run run
    · have shorter : rest.length < n := by
        have filled := List.length_pos_iff.mpr run.1
        simp only [List.length_append] at size
        omega
      exact join_mem_runsJoinedBy run mixture (ih rest.length shorter others rfl)

theorem mem_runsJoinedBy_mixtures_iff :
    component ∈ runsJoinedBy mixtures ↔ ComponentRules component := by
  constructor
  · intro mem
    apply runsJoinedBy_induction _ _ mem
    · exact fun r run => componentRules_of_run run
    · exact fun r run s mixture rest rules => rules.join run mixture
  · exact ComponentRules.mem_runsJoinedBy

/-! ### Separators of one kind -/

theorem mem_separators_iff : s ∈ separators ↔ s ∈ mixtures ∧ ∃ c n, s = List.replicate n c := by
  constructor
  · rintro (rfl | rfl | rfl | ⟨n, rfl⟩)
    · exact ⟨⟨by simp, by simp [IsSeparator], by decide, by decide⟩, '.', 1, rfl⟩
    · exact ⟨⟨by simp, by simp [IsSeparator], by decide, by decide⟩, '_', 1, rfl⟩
    · exact ⟨⟨by simp, by simp [IsSeparator], by decide, by decide⟩, '_', 2, rfl⟩
    · refine ⟨⟨by simp, ?_, ?_, ?_⟩, '-', n + 1, rfl⟩
      · intro c mem
        rw [List.eq_of_mem_replicate mem]
        decide
      · intro within
        have mem : '.' ∈ List.replicate (n + 1) '-' := within.subset (by simp)
        exact absurd (List.eq_of_mem_replicate mem) (by decide)
      · intro within
        have mem : '_' ∈ List.replicate (n + 1) '-' := within.subset (by simp)
        exact absurd (List.eq_of_mem_replicate mem) (by decide)
  · rintro ⟨⟨filled, separate, periods, underscores⟩, c, n, rfl⟩
    obtain ⟨n, rfl⟩ : ∃ k, n = k + 1 :=
      Nat.exists_eq_succ_of_ne_zero (by rintro rfl; exact filled rfl)
    have kind := separate c (List.mem_replicate.mpr ⟨n.succ_ne_zero, rfl⟩)
    simp only [IsSeparator, List.mem_cons, List.not_mem_nil, or_false] at kind
    rcases kind with rfl | rfl | rfl
    · cases n with
      | zero => exact .inl rfl
      | succ n => exact absurd ⟨[], List.replicate n '.', rfl⟩ periods
    · match n with
      | 0 => exact .inr (.inl rfl)
      | 1 => exact .inr (.inr (.inl rfl))
      | n + 2 => exact absurd ⟨[], List.replicate n '_', rfl⟩ underscores
    · exact .inr (.inr (.inr ⟨n, rfl⟩))

theorem unmixed_of_run (run : ∀ c ∈ r, IsRunCharacter c) : Unmixed r := by
  apply List.Pairwise.isChain
  apply List.pairwise_of_forall_mem_list
  intro c mem d _ separates
  exact absurd (run c mem) separates.not_isRunCharacter

theorem unmixed_replicate (n : Nat) (c : Char) : Unmixed (List.replicate n c) := by
  apply List.Pairwise.isChain
  apply List.pairwise_of_forall_mem_list
  intro d mem d' mem' _ _
  rw [List.eq_of_mem_replicate mem, List.eq_of_mem_replicate mem']

/-- Separators that are all of one kind are one character, repeated. -/
theorem exists_eq_replicate_of_unmixed (filled : s ≠ []) (separate : ∀ c ∈ s, IsSeparator c)
    (unmixed : Unmixed s) : ∃ c n, s = List.replicate n c := by
  have same : s.IsChain (· = ·) := List.IsChain.imp_of_mem_imp
    (fun c d mem mem' alike => alike (separate c mem) (separate d mem')) unmixed
  have start := List.head?_eq_some_head filled
  exact ⟨_, _, List.isChain_eq_iff_eq_replicate.mp same _ start⟩

/-- A run, separators and a component in a row are unmixed if the separators and the component
are. -/
theorem Unmixed.join (run : r ∈ runs) (mixture : Unmixed s) (others : Unmixed rest)
    (rules : ComponentRules rest) : Unmixed (r ++ s ++ rest) := by
  obtain ⟨c, start, character⟩ := rules.first
  refine ((unmixed_of_run run.2).append mixture ?_).append others ?_
  · intro d last _ _ separates
    exact absurd (run.2 d (List.mem_of_getLast? last)) separates.not_isRunCharacter
  · intro _ _ d first _ separates
    cases start.symm.trans first
    exact absurd character separates.not_isRunCharacter

theorem rules_and_unmixed_of_mem_components (mem : component ∈ components) :
    ComponentRules component ∧ Unmixed component := by
  apply runsJoinedBy_induction _ _ mem
  · exact fun r run => ⟨componentRules_of_run run, unmixed_of_run run.2⟩
  · rintro r run s separator rest ⟨rules, unmixed⟩
    obtain ⟨mixture, c, n, rfl⟩ := mem_separators_iff.mp separator
    exact ⟨rules.join run mixture, .join run (unmixed_replicate n c) unmixed rules⟩

theorem mem_components_of_unmixed (mem : component ∈ runsJoinedBy mixtures)
    (unmixed : Unmixed component) : component ∈ components := by
  revert unmixed
  apply runsJoinedBy_induction _ _ mem
  · exact fun r run _ => mem_runsJoinedBy_of_run run
  · intro r run s mixture rest ih unmixed
    have own := unmixed.infix ⟨r, rest, rfl⟩
    have separator : s ∈ separators :=
      mem_separators_iff.mpr ⟨mixture, exists_eq_replicate_of_unmixed mixture.1 mixture.2.1 own⟩
    exact join_mem_runsJoinedBy run separator (ih unmixed.right_of_append)

/-- The components that are accepted are runs joined by mixtures of separators. Those of the grammar
are among them, and are the ones in which no two different separators stand next to each other. -/
theorem component_language (component : List Char) :
    (checkComponent component = .ok () ↔ component ∈ runsJoinedBy mixtures) ∧
      (component ∈ components ↔ checkComponent component = .ok () ∧ Unmixed component) := by
  rw [checkComponent_eq_ok_iff, mem_runsJoinedBy_mixtures_iff]
  refine ⟨Iff.rfl, rules_and_unmixed_of_mem_components, ?_⟩
  rintro ⟨rules, unmixed⟩
  exact mem_components_of_unmixed rules.mem_runsJoinedBy unmixed

/-- A period and a dash next to each other are accepted, and are no separator of the grammar. -/
theorem period_dash_accepted :
    checkComponent "a.-b".toList = .ok () ∧ "a.-b".toList ∉ components := by
  refine ⟨rfl, fun mem => ?_⟩
  have unmixed := (rules_and_unmixed_of_mem_components mem).2
  have within : ['.', '-'] <:+: "a.-b".toList := ⟨['a'], ['b'], rfl⟩
  have alike := unmixed.infix within
  rw [List.isChain_pair] at alike
  exact absurd (alike (by decide) (by decide)) (by decide)

end ArtifactTrust.Reference
