import ArtifactTrust.NameMap
import Mathlib.Data.List.Sort

/-!
# Looking names up

No name occurs twice, so a lookup that takes the first entry of a name misses no other.
-/

namespace ArtifactTrust.NameMap

set_option autoImplicit false

variable {α : Type}

theorem lookup_eq_some_iff_mem {entries : List (String × α)} {name : String} {value : α}
    (ascending : entries.Pairwise fun a b => a.1 < b.1) :
    entries.lookup name = some value ↔ (name, value) ∈ entries := by
  induction entries with
  | nil => simp
  | cons entry rest ih =>
    obtain ⟨n, v⟩ := entry
    obtain ⟨below, ascending⟩ := List.pairwise_cons.mp ascending
    rw [List.lookup_cons, List.mem_cons]
    cases h : name == n with
    | true =>
      obtain rfl := eq_of_beq h
      have absent : (name, value) ∉ rest := fun mem => String.lt_irrefl name (below _ mem)
      simp [absent, eq_comm]
    | false =>
      have other : name ≠ n := ne_of_beq_false h
      simp [ih ascending, other]

theorem get?_eq_some_iff_mem {m : NameMap α} {name : String} {value : α} :
    m.get? name = some value ↔ (name, value) ∈ m.entries :=
  lookup_eq_some_iff_mem m.ascending

theorem ext_get? {a b : NameMap α} (h : ∀ name, a.get? name = b.get? name) : a = b := by
  have irreflexive : Std.Irrefl fun x y : String × α => x.1 < y.1 :=
    ⟨fun x => String.lt_irrefl x.1⟩
  have antisymmetric : Std.Antisymm fun x y : String × α => x.1 < y.1 :=
    ⟨fun x y below above => absurd (String.lt_trans below above) (String.lt_irrefl x.1)⟩
  apply NameMap.ext
  apply a.ascending.eq_of_mem_iff b.ascending
  intro entry
  obtain ⟨name, value⟩ := entry
  rw [← get?_eq_some_iff_mem, ← get?_eq_some_iff_mem, h]

theorem lookup_cons_eq_ite (name : String) (value : α) (rest : List (String × α)) (n : String) :
    ((name, value) :: rest).lookup n = if n = name then some value else rest.lookup n := by
  rw [List.lookup_cons]
  by_cases here : n = name
  · rw [if_pos here, beq_iff_eq.mpr here]
  · rw [if_neg here, beq_eq_false_iff_ne.mpr here]

theorem lookup_insertEntry (name : String) (value : α) (entries : List (String × α))
    (n : String) :
    (insertEntry name value entries).lookup n =
      if n = name then some value else entries.lookup n := by
  induction entries with
  | nil => exact lookup_cons_eq_ite name value [] n
  | cons entry rest ih =>
    obtain ⟨other, old⟩ := entry
    rw [insertEntry]
    split
    · exact lookup_cons_eq_ite name value _ n
    split
    · rename_i same
      subst same
      rw [lookup_cons_eq_ite, lookup_cons_eq_ite]
      by_cases here : n = name
      · rw [if_pos here, if_pos here]
      · rw [if_neg here, if_neg here, if_neg here]
    · rename_i differs
      rw [lookup_cons_eq_ite, lookup_cons_eq_ite, ih]
      by_cases there : n = other
      · rw [if_pos there, if_pos there, if_neg (there ▸ Ne.symm differs)]
      · rw [if_neg there, if_neg there]

theorem get?_insert (m : NameMap α) (name : String) (value : α) (n : String) :
    (m.insert name value).get? n = if n = name then some value else m.get? n :=
  lookup_insertEntry name value m.entries n

theorem get?_foldl_insert (m : NameMap α) {entries : List (String × α)}
    (ascending : entries.Pairwise fun a b => a.1 < b.1) (n : String) :
    (entries.foldl (fun m (name, value) => m.insert name value) m).get? n =
      (entries.lookup n).or (m.get? n) := by
  induction entries generalizing m with
  | nil => rfl
  | cons entry rest ih =>
    obtain ⟨name, value⟩ := entry
    obtain ⟨below, ascending⟩ := List.pairwise_cons.mp ascending
    rw [List.foldl_cons, ih _ ascending, get?_insert, lookup_cons_eq_ite]
    by_cases here : n = name
    · have later : rest.lookup n = none := by
        rw [List.lookup_eq_none_iff]
        intro other mem
        rw [bne_iff_ne, here]
        rintro rfl
        exact String.lt_irrefl _ (below other mem)
      rw [if_pos here, if_pos here, later, Option.none_or, Option.some_or]
    · rw [if_neg here, if_neg here]

theorem ofList_entries (m : NameMap α) : ofList m.entries = m := by
  apply ext_get?
  intro name
  rw [ofList, get?_foldl_insert _ m.ascending]
  exact Option.or_none

theorem contains_iff_mem_names {m : NameMap α} {name : String} :
    m.contains name = true ↔ name ∈ m.names := by
  unfold contains names
  rw [Option.isSome_iff_exists, List.mem_map]
  constructor
  · rintro ⟨value, found⟩
    exact ⟨(name, value), get?_eq_some_iff_mem.mp found, rfl⟩
  · rintro ⟨entry, mem, rfl⟩
    exact ⟨entry.2, get?_eq_some_iff_mem.mpr mem⟩

theorem insertEntry_perm {name : String} {entries : List (String × α)}
    (new : name ∉ entries.map Prod.fst) (value : α) :
    (insertEntry name value entries).Perm ((name, value) :: entries) := by
  induction entries with
  | nil => exact .refl _
  | cons entry rest ih =>
    obtain ⟨other, old⟩ := entry
    rw [List.map_cons, List.mem_cons, not_or] at new
    rw [insertEntry]
    split
    · exact .refl _
    · rw [if_neg new.1]
      exact ((ih new.2).cons (other, old)).trans (.swap (name, value) (other, old) rest)

theorem entries_insert_perm {m : NameMap α} {name : String} (new : ¬ m.contains name = true)
    (value : α) : (m.insert name value).entries.Perm ((name, value) :: m.entries) :=
  insertEntry_perm (fun mem => new (contains_iff_mem_names.mpr mem)) value

theorem eq_of_entries_perm {a b : NameMap α} (same : a.entries.Perm b.entries) : a = b := by
  apply ext_get?
  intro name
  apply Option.ext
  intro value
  rw [get?_eq_some_iff_mem, get?_eq_some_iff_mem, same.mem_iff]

@[simp] theorem get?_empty (name : String) : (∅ : NameMap α).get? name = none := rfl

end ArtifactTrust.NameMap
