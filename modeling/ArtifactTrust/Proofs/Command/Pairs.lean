import ArtifactTrust.Command.Pairs
import ArtifactTrust.Proofs.NameMap
import ArtifactTrust.Proofs.Text.Cut

/-!
# When values are names with texts

The map that is made so far tells which names have been given, so the fault is that of the first
value that cannot be cut or has the name of an earlier one.
-/

namespace ArtifactTrust.Command

set_option autoImplicit false

open Text

variable {option s name text : String} {values : List String} {found : Labels}

/-- A value that holds an equals sign, where its outer blanks do not count. -/
def Separated (s : String) : Prop := '=' ∈ trim s.toList

instance (s : String) : Decidable (Separated s) := inferInstanceAs (Decidable (_ ∈ _))

/-- What is in front of the first equals sign. -/
def nameOf (s : String) : String := String.ofList ((trim s.toList).takeWhile (· ≠ '='))

/-- Values of which a map is made: each is separated, and all have names of their own. -/
structure ArePairs (values : List String) : Prop where
  separated : ∀ s ∈ values, Separated s
  distinct : (values.map nameOf).Nodup

/-- The fault of the first value that is not separated or has the name of an earlier one. -/
inductive FirstFault (option : String) (values : List String) : PairFault → Prop
  | noSeparator {before after : List String} {s : String} (split : values = before ++ s :: after)
      (good : ArePairs before) (bare : ¬ Separated s) :
      FirstFault option values (.noSeparator option)
  | sameName {before after : List String} {s : String} (split : values = before ++ s :: after)
      (good : ArePairs before) (separated : Separated s) (again : nameOf s ∈ before.map nameOf) :
      FirstFault option values (.sameName option (nameOf s))

theorem pair?_eq_none_iff : pair? s = none ↔ ¬ Separated s := by
  unfold pair? cutFirst?
  rw [Option.map_eq_none_iff, cutFirst_eq_none, toList_trimmed]
  rfl

theorem nameOf_of_pair? (cut : pair? s = some (name, text)) : nameOf s = name := by
  obtain ⟨whole, free⟩ := cutFirst?_eq_some_iff.mp cut
  have named : ∀ c ∈ name.toList, decide (c ≠ '=') = true := by
    intro c mem
    rw [decide_eq_true_eq]
    rintro rfl
    exact free mem
  unfold nameOf
  rw [← toList_trimmed, whole, String.toList_append, String.toList_append, List.append_assoc,
    List.takeWhile_append_of_pos named]
  simp

def textOf (s : String) : String :=
  String.ofList (((trim s.toList).dropWhile (· ≠ '=')).drop 1)

theorem textOf_of_pair? (cut : pair? s = some (name, text)) : textOf s = text := by
  obtain ⟨whole, -⟩ := cutFirst?_eq_some_iff.mp cut
  have front : (trim s.toList).takeWhile (· ≠ '=') = name.toList := by
    rw [← nameOf_of_pair? cut, nameOf, String.toList_ofList]
  have sides : name.toList ++ (trim s.toList).dropWhile (· ≠ '=') =
      name.toList ++ '=' :: text.toList := by
    rw [← front, List.takeWhile_append_dropWhile, front, ← toList_trimmed, whole]
    simp
  unfold textOf
  rw [List.append_cancel_left sides, List.drop_one, List.tail_cons, String.ofList_toList]

theorem pair?_of_separated (separated : Separated s) :
    pair? s = some (nameOf s, textOf s) := by
  cases cut : pair? s with
  | none => exact absurd separated (pair?_eq_none_iff.mp cut)
  | some sides => rw [nameOf_of_pair? cut, textOf_of_pair? cut]

/-! ### One value -/

theorem addPairs_of_bare (bare : ¬ Separated s) (rest : List String) :
    addPairs option found (s :: rest) = .error (.noSeparator option) := by
  rw [addPairs, pair?_eq_none_iff.mpr bare]

theorem addPairs_of_again (separated : Separated s) (again : found.contains (nameOf s) = true)
    (rest : List String) :
    addPairs option found (s :: rest) = .error (.sameName option (nameOf s)) := by
  rw [addPairs, pair?_of_separated separated]
  exact if_pos again

theorem addPairs_of_new (separated : Separated s) (new : ¬ found.contains (nameOf s) = true)
    (rest : List String) :
    addPairs option found (s :: rest) =
      addPairs option (found.insert (nameOf s) (textOf s)) rest := by
  rw [addPairs, pair?_of_separated separated]
  exact if_neg new

/-! ### All values -/

theorem arePairs_nil : ArePairs [] := ⟨nofun, .nil⟩

theorem arePairs_concat_iff :
    ArePairs (values ++ [s]) ↔ ArePairs values ∧ Separated s ∧ nameOf s ∉ values.map nameOf := by
  have both : ((values ++ [s]).map nameOf).Nodup ↔
      (values.map nameOf).Nodup ∧ nameOf s ∉ values.map nameOf := by
    rw [List.map_append, List.map_singleton, ← List.concat_eq_append, List.nodup_concat]
    exact And.comm
  constructor
  · rintro ⟨separated, distinct⟩
    obtain ⟨distinct, new⟩ := both.mp distinct
    exact ⟨⟨fun t mem => separated t (List.mem_append_left _ mem), distinct⟩,
      separated s (by simp), new⟩
  · rintro ⟨good, separated, new⟩
    refine ⟨fun t mem => ?_, both.mpr ⟨good.distinct, new⟩⟩
    rcases List.mem_append.mp mem with mem | mem
    · exact good.separated t mem
    · rw [List.mem_singleton.mp mem]
      exact separated

theorem ArePairs.of_append {others : List String} (good : ArePairs (values ++ others)) :
    ArePairs values := by
  refine ⟨fun s mem => good.separated s (List.mem_append_left _ mem), ?_⟩
  have distinct := good.distinct
  rw [List.map_append] at distinct
  exact (List.nodup_append.mp distinct).1

theorem FirstFault.not_arePairs {fault : PairFault} (first : FirstFault option values fault) :
    ¬ ArePairs values := by
  intro good
  cases first with
  | noSeparator split _ bare => exact bare (good.separated _ (by rw [split]; simp))
  | sameName split _ _ again =>
    rw [split, List.append_cons] at good
    exact (arePairs_concat_iff.mp good.of_append).2.2 again

/-- The map holds the names of the values that it was made of. -/
def Holds (found : Labels) (values : List String) : Prop :=
  ∀ name, found.contains name = true ↔ name ∈ values.map nameOf

theorem Holds.insert (holds : Holds found values) (s text : String) :
    Holds (found.insert (nameOf s) text) (values ++ [s]) := by
  intro name
  have earlier := holds name
  unfold NameMap.contains at earlier ⊢
  rw [NameMap.get?_insert, List.map_append, List.mem_append, List.map_singleton,
    List.mem_singleton]
  by_cases same : name = nameOf s
  · simp [same]
  · rw [if_neg same, earlier]
    simp [same]

/-- The values that are left are taken, or there is a first fault among all of them. The induction
carries along the values that have been taken in, whose names the map holds. -/
theorem addPairs_cases {taken : List String} (good : ArePairs taken) (holds : Holds found taken)
    (values : List String) :
    (∃ labels, addPairs option found values = .ok labels ∧ ArePairs (taken ++ values)) ∨
      ∃ fault, addPairs option found values = .error fault ∧
        FirstFault option (taken ++ values) fault := by
  induction values generalizing found taken with
  | nil =>
    rw [List.append_nil]
    exact .inl ⟨found, rfl, good⟩
  | cons s rest ih =>
    by_cases separated : Separated s
    · by_cases again : found.contains (nameOf s) = true
      · exact .inr ⟨_, addPairs_of_again separated again rest,
          .sameName rfl good separated ((holds _).mp again)⟩
      · rw [addPairs_of_new separated again, List.append_cons]
        exact ih (arePairs_concat_iff.mpr
          ⟨good, separated, fun mem => again ((holds _).mpr mem)⟩) (holds.insert s (textOf s))
    · exact .inr ⟨_, addPairs_of_bare separated rest, .noSeparator rfl good separated⟩

theorem pairs_cases (option : String) (values : List String) :
    (∃ labels, pairs option values = .ok labels ∧ ArePairs values) ∨
      ∃ fault, pairs option values = .error fault ∧ FirstFault option values fault :=
  addPairs_cases arePairs_nil (by simp [Holds, NameMap.contains]) values

theorem exists_pairs_iff : (∃ labels, pairs option values = .ok labels) ↔ ArePairs values := by
  rcases pairs_cases option values with ⟨labels, made, good⟩ | ⟨fault, failed, first⟩
  · exact ⟨fun _ => good, fun _ => ⟨labels, made⟩⟩
  · rw [failed]
    exact ⟨nofun, fun good => absurd good first.not_arePairs⟩

theorem firstFault_of_pairs {fault : PairFault} (failed : pairs option values = .error fault) :
    FirstFault option values fault := by
  rcases pairs_cases option values with ⟨labels, made, -⟩ | ⟨own, same, first⟩
  · cases made.symm.trans failed
  · cases same.symm.trans failed
    exact first

/-! ### The map that is made -/

open scoped List

def entryOf (s : String) : String × String := (nameOf s, textOf s)

theorem new_of_addPairs {labels : Labels} {rest : List String}
    (made : addPairs option found (s :: rest) = .ok labels) :
    Separated s ∧ ¬ found.contains (nameOf s) = true := by
  by_cases separated : Separated s
  · refine ⟨separated, fun again => ?_⟩
    rw [addPairs_of_again separated again] at made
    cases made
  · rw [addPairs_of_bare separated] at made
    cases made

/-- Each value that is taken in makes an entry of its own, beside those that were there. -/
theorem entries_of_addPairs {labels : Labels} (made : addPairs option found values = .ok labels) :
    labels.entries ~ found.entries ++ values.map entryOf := by
  induction values generalizing found with
  | nil =>
    cases made
    rw [List.map_nil, List.append_nil]
  | cons s rest ih =>
    obtain ⟨separated, new⟩ := new_of_addPairs made
    rw [addPairs_of_new separated new] at made
    have added := NameMap.entries_insert_perm new (textOf s)
    calc labels.entries
      _ ~ (found.insert (nameOf s) (textOf s)).entries ++ rest.map entryOf := ih made
      _ ~ entryOf s :: found.entries ++ rest.map entryOf := added.append_right _
      _ ~ found.entries ++ (s :: rest).map entryOf := List.perm_middle.symm

theorem entries_of_pairs {labels : Labels} (made : pairs option values = .ok labels) :
    labels.entries ~ values.map entryOf :=
  entries_of_addPairs made

theorem holds_of_pairs {labels : Labels} (made : pairs option values = .ok labels) :
    Holds labels values := by
  have names : labels.names ~ values.map nameOf := by
    have same := (entries_of_pairs made).map Prod.fst
    rwa [List.map_map] at same
  intro name
  rw [NameMap.contains_iff_mem_names, names.mem_iff]

theorem ArePairs.perm {others : List String} (good : ArePairs values) (same : others ~ values) :
    ArePairs others :=
  ⟨fun s mem => good.separated s (same.mem_iff.mp mem),
    (same.map nameOf).nodup_iff.mpr good.distinct⟩

theorem addPairs_append {labels : Labels} (made : addPairs option found values = .ok labels)
    (others : List String) :
    addPairs option found (values ++ others) = addPairs option labels others := by
  induction values generalizing found with
  | nil =>
    cases made
    rfl
  | cons s rest ih =>
    obtain ⟨separated, new⟩ := new_of_addPairs made
    rw [addPairs_of_new separated new] at made
    rw [List.cons_append, addPairs_of_new separated new]
    exact ih made

/-- The values in front of the first fault are taken in, and it is met behind them. -/
theorem pairs_of_firstFault {fault : PairFault} (first : FirstFault option values fault) :
    pairs option values = .error fault := by
  have taken (before : List String) (good : ArePairs before) :
      ∃ labels, Holds labels before ∧
        ∀ others, pairs option (before ++ others) = addPairs option labels others := by
    obtain ⟨labels, made⟩ := exists_pairs_iff.mpr good
    exact ⟨labels, holds_of_pairs made, addPairs_append made⟩
  cases first with
  | noSeparator split good bare =>
    obtain ⟨labels, -, meets⟩ := taken _ good
    rw [split, meets, addPairs_of_bare bare]
  | sameName split good separated again =>
    obtain ⟨labels, holds, meets⟩ := taken _ good
    rw [split, meets, addPairs_of_again separated ((holds _).mpr again)]

/-- A map is made of values exactly if each of them is separated and all have names of their own.
It has one entry for each value, which takes what is in front of the first equals sign to all that
is behind it, and it is the same whatever order the values have. Where none is made, the fault is
that of the first value which is not separated or has the name of an earlier one. -/
theorem pairs_lossless (option : String) (values : List String) :
    ((∃ labels, pairs option values = .ok labels) ↔ ArePairs values) ∧
    (∀ labels, pairs option values = .ok labels →
      labels.entries ~ values.map entryOf ∧
      (∀ s ∈ values, trimmed s = nameOf s ++ "=" ++ textOf s ∧ '=' ∉ (nameOf s).toList ∧
        labels.get? (nameOf s) = some (textOf s)) ∧
      ∀ others : List String, others ~ values → pairs option others = .ok labels) ∧
    ∀ fault, pairs option values = .error fault ↔ FirstFault option values fault := by
  refine ⟨exists_pairs_iff, fun labels made => ⟨entries_of_pairs made, ?_, ?_⟩,
    fun fault => ⟨firstFault_of_pairs, pairs_of_firstFault⟩⟩
  · intro s mem
    have good := exists_pairs_iff.mp ⟨labels, made⟩
    obtain ⟨whole, free⟩ := cutFirst?_eq_some_iff.mp (pair?_of_separated (good.separated s mem))
    refine ⟨whole, free, NameMap.get?_eq_some_iff_mem.mpr ?_⟩
    rw [(entries_of_pairs made).mem_iff]
    exact List.mem_map_of_mem mem
  · intro others same
    have good := exists_pairs_iff.mp ⟨labels, made⟩
    obtain ⟨rearranged, remade⟩ : ∃ labels, pairs option others = .ok labels :=
      exists_pairs_iff.mpr (good.perm same)
    have entries : rearranged.entries ~ labels.entries :=
      (entries_of_pairs remade).trans
        ((same.map entryOf).trans (entries_of_pairs made).symm)
    rw [remade, NameMap.eq_of_entries_perm entries]

def spacedValues : List String := ["a=b", " c d=d=e\t", "empty="]

def collidingValues : List String := ["k=1", "\u00a0k=2", "bare"]

/-- An order that is turned around makes the same map, further equals signs and inner blanks are
kept, and names that differ in outer blanks only are the same. -/
theorem pairs_lossless_spaced :
    (∃ labels, pairs "--user-metadata" spacedValues = .ok labels ∧
      labels.get? "c d" = some "d=e" ∧
      pairs "--user-metadata" spacedValues.reverse = .ok labels) ∧
    FirstFault "--user-metadata" collidingValues (.sameName "--user-metadata" "k") := by
  have good : ArePairs spacedValues := ⟨by decide +kernel, by decide +kernel⟩
  obtain ⟨made, result, -⟩ := pairs_lossless "--user-metadata" spacedValues
  obtain ⟨labels, found⟩ := made.mpr good
  obtain ⟨-, holds, turned⟩ := result labels found
  obtain ⟨-, -, kept⟩ := holds " c d=d=e\t" (by simp [spacedValues])
  obtain ⟨-, -, refused⟩ := pairs_lossless "--user-metadata" collidingValues
  exact ⟨⟨labels, found, kept, turned _ (List.reverse_perm _)⟩,
    (refused _).mp (by decide +kernel)⟩

end ArtifactTrust.Command
