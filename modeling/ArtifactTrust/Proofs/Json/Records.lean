import ArtifactTrust.Proofs.Json.Values
import ArtifactTrust.Proofs.NameMap

/-!
# Reading written records

Writing and reading are faithful if what is written is legible and read as what it was written from.
Records are so if their fields are.
-/

namespace ArtifactTrust.Json.Value

set_option autoImplicit false

variable {α β : Type} {read : Value → Option α} {write : α → Value}

structure Faithful (read : Value → Option α) (write : α → Value) : Prop where
  legible (a : α) : (write a).Legible
  given (a : α) : write a ≠ .null
  reads (a : α) : read (write a) = some a

theorem Faithful.decode?_encode [Record α]
    (faithful : Faithful (Record.ofValue? (α := α)) Record.toValue) (a : α) :
    decode? (encode a) = some a := by
  unfold decode? encode document
  rw [(faithful.legible a).parse?, Option.bind_eq_bind, Option.bind_some, faithful.reads]

/-! ### Texts, numbers and lists -/

theorem string?_utf8 (s : String) : string? s.toUTF8.data.toList = some s :=
  dif_pos s.isValidUTF8

theorem faithful_string : Faithful asString? ofString where
  legible _ := legible_text _
  given _ := nofun
  reads := string?_utf8

theorem faithful_uint64 : Faithful asUInt64? fun n => .natural n.toNat where
  legible n := legible_natural n.toNat
  given _ := nofun
  reads n := by
    have small : n.toNat < UInt64.size := n.toNat_lt
    simp [asUInt64?, asNatural?, small]

theorem faithful_uint32 : Faithful asUInt32? fun n => .natural n.toNat where
  legible n := legible_natural n.toNat
  given _ := nofun
  reads n := by
    have small : n.toNat < UInt32.size := n.toNat_lt
    simp [asUInt32?, asNatural?, small]

/-- A choice among names is faithful if every name stands for what it is the name of. -/
theorem faithful_name {ofName? : String → Option α} {name : α → String}
    (named : ∀ a, ofName? (name a) = some a) :
    Faithful (fun v => do ofName? (← v.asName?)) fun a => ofString (name a) where
  legible a := faithful_string.legible (name a)
  given _ := nofun
  reads a := by
    rw [ofString, asName?, string?_utf8, Option.bind_eq_bind, Option.bind_some, named]

theorem mapM_map_eq_some {put : α → β} {get : β → Option α} (same : ∀ a, get (put a) = some a)
    (as : List α) : (as.map put).mapM get = some as := by
  induction as with
  | nil => rfl
  | cons a rest ih =>
    rw [List.map_cons, List.mapM_cons, same, ih]
    rfl

theorem Faithful.list (faithful : Faithful read write) :
    Faithful (asList? read) fun as => .array (as.map write) where
  legible as := by
    apply legible_array
    intro v mem
    obtain ⟨a, -, rfl⟩ := List.mem_map.mp mem
    exact faithful.legible a
  given _ := nofun
  reads as := by
    rw [asList?, mapM_map_eq_some faithful.reads]

/-! ### Members -/

theorem namedMembers?_map (ms : List (String × Value)) :
    namedMembers? (ms.map fun m => member m.1 m.2) = some ms := by
  induction ms with
  | nil => rfl
  | cons m rest ih =>
    rw [List.map_cons, member, namedMembers?, string?_utf8, ih]
    rfl

theorem legible_members {ms : List (String × Value)} (legible : ∀ m ∈ ms, m.2.Legible) :
    Legible (.object (ms.map fun m => member m.1 m.2)) := by
  apply legible_object
  intro entry mem
  obtain ⟨m, listed, rfl⟩ := List.mem_map.mp mem
  exact legible m listed

theorem ofLabels_eq (l : Labels) :
    ofLabels l =
      .object ((l.entries.map fun e => (e.1, ofString e.2)).map fun m => member m.1 m.2) := by
  rw [ofLabels, List.map_map]
  rfl

theorem faithful_labels : Faithful asLabels? ofLabels where
  legible l := by
    rw [ofLabels_eq]
    apply legible_members
    intro m mem
    obtain ⟨e, -, rfl⟩ := List.mem_map.mp mem
    exact faithful_string.legible e.2
  given _ := nofun
  reads l := by
    rw [ofLabels_eq, asLabels?, namedMembers?_map, Option.bind_eq_bind, Option.bind_some,
      mapM_map_eq_some, Option.bind_eq_bind, Option.bind_some, NameMap.ofList_entries]
    · rfl
    · intro e
      simp [faithful_string.reads]

/-! ### Fields -/

def given (fields : List (String × Option Value)) : List (String × Value) :=
  fields.filterMap fun field => field.2.map fun v => (field.1, v)

/-- An object with the fields that have a value. -/
def record (names : List String) (values : List (Option Value)) : Value :=
  .object ((given (names.zip values)).map fun m => member m.1 m.2)

theorem names_given_sublist (fields : List (String × Option Value)) :
    ((given fields).map Prod.fst).Sublist (fields.map Prod.fst) := by
  induction fields with
  | nil => exact .slnil
  | cons field rest ih =>
    obtain ⟨name, value⟩ := field
    cases value with
    | none => exact ih.cons name
    | some v => exact ih.cons_cons name

theorem lookup_given {fields : List (String × Option Value)}
    (distinct : (fields.map Prod.fst).Nodup) {field : String × Option Value}
    (mem : field ∈ fields) : (given fields).lookup field.1 = field.2 := by
  induction fields with
  | nil => cases mem
  | cons first rest ih =>
    obtain ⟨name, value⟩ := first
    rw [List.map_cons, List.nodup_cons] at distinct
    have absent : (given rest).lookup name = none := by
      rw [List.lookup_eq_none_iff]
      intro m listed
      rw [bne_iff_ne]
      rintro rfl
      exact distinct.1 ((names_given_sublist rest).subset (List.mem_map_of_mem listed))
    rcases List.mem_cons.mp mem with rfl | later
    · cases value with
      | none => exact absent
      | some v => exact List.lookup_cons_self
    · have other : field.1 ≠ name := by
        intro same
        have here : field.1 ∈ rest.map Prod.fst := List.mem_map_of_mem later
        rw [same] at here
        exact distinct.1 here
      cases value with
      | none => exact ih distinct.2 later
      | some v =>
        rw [given, List.filterMap_cons, Option.map_some, NameMap.lookup_cons_eq_ite, if_neg other]
        exact ih distinct.2 later

theorem length_filter_given {fields : List (String × Option Value)}
    (distinct : (fields.map Prod.fst).Nodup) (name : String) :
    ((given fields).filter (·.1 = name)).length ≤ 1 := by
  have once := List.nodup_iff_count_le_one.mp ((names_given_sublist fields).nodup distinct) name
  rw [List.count, List.countP_map, List.countP_eq_length_filter] at once
  exact once

theorem fields?_record {names : List String} {values : List (Option Value)}
    (distinct : names.Nodup) (length : names.length = values.length) :
    fields? names (record names values) = some values := by
  have named : (names.zip values).map Prod.fst = names := List.map_fst_zip (by omega)
  have valued : (names.zip values).map Prod.snd = values := List.map_snd_zip (by omega)
  have distinct' : ((names.zip values).map Prod.fst).Nodup := by rwa [named]
  have agree : ∀ field ∈ names.zip values,
      (given (names.zip values)).lookup field.1 = field.2 := fun _ => lookup_given distinct'
  have single : (names.all fun name =>
      ((given (names.zip values)).filter (·.1 = name)).length ≤ 1) = true := by
    rw [List.all_eq_true]
    exact fun name _ => decide_eq_true (length_filter_given distinct' name)
  unfold record fields?
  simp only
  rw [namedMembers?_map, Option.bind_eq_bind, Option.bind_some, if_pos single]
  refine congrArg some ?_
  calc
    names.map (fun name => (given (names.zip values)).lookup name)
      = ((names.zip values).map Prod.fst).map
          fun name => (given (names.zip values)).lookup name := by rw [named]
    _ = (names.zip values).map Prod.snd := by
      rw [List.map_map]
      exact List.map_congr_left agree
    _ = values := valued

def LegibleField (value : Option Value) : Prop := ∀ v, value = some v → v.Legible

theorem legible_record {names : List String} {values : List (Option Value)}
    (legible : values.Forall LegibleField) : (record names values).Legible := by
  apply legible_members
  intro m mem
  obtain ⟨⟨name, value⟩, listed, kept⟩ := List.mem_filterMap.mp mem
  obtain ⟨v, same, rfl⟩ := Option.map_eq_some_iff.mp kept
  exact List.forall_iff_forall_mem.mp legible value (List.of_mem_zip listed).2 v same

theorem Faithful.legible_some (faithful : Faithful read write) (a : α) :
    LegibleField (some (write a)) := by
  intro v same
  cases same
  exact faithful.legible a

theorem Faithful.legible_map (faithful : Faithful read write) (a? : Option α) :
    LegibleField (a?.map write) := by
  intro v same
  obtain ⟨a, -, rfl⟩ := Option.map_eq_some_iff.mp same
  exact faithful.legible a

theorem Faithful.legible_ite (faithful : Faithful read write) (left : Prop) [Decidable left]
    (a : α) : LegibleField (if left then none else some (write a)) := by
  split
  · exact nofun
  · exact faithful.legible_some a

@[simp] theorem Faithful.required (faithful : Faithful read write) (a : α) :
    Value.required read (some (write a)) = some a := faithful.reads a

@[simp] theorem Faithful.orDefault (faithful : Faithful read write) (fallback a : α) :
    Value.orDefault fallback read (some (write a)) = some a := faithful.reads a

theorem Faithful.orDefault_ite [DecidableEq α] (faithful : Faithful read write) (fallback a : α) :
    Value.orDefault fallback read (if a = fallback then none else some (write a)) = some a := by
  by_cases usual : a = fallback
  · rw [if_pos usual, usual]
    rfl
  · rw [if_neg usual, faithful.orDefault]

@[simp] theorem Faithful.optional (faithful : Faithful read write) (a? : Option α) :
    Value.optional read (a?.map write) = some a? := by
  cases a? with
  | none => rfl
  | some a =>
    have given := faithful.given a
    have reads := faithful.reads a
    rw [Option.map_some]
    cases written : write a with
    | null => exact absurd written given
    | _ =>
      rw [written] at reads
      simp [Value.optional, reads]

end ArtifactTrust.Json.Value
