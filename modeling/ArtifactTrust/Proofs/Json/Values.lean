import ArtifactTrust.Json.Record
import ArtifactTrust.Proofs.Json.Tokens

/-!
# Reading written values

Legibility is stated for any place in a document where a value may stand, so that arrays and objects
inherit it from what they hold.
-/

namespace ArtifactTrust.Json

set_option autoImplicit false

/-- Where a value may stand. -/
def Expected.Open (expected : Expected) : Prop := expected = .value ∨ expected = .firstItem

/-- Where the name of a member may stand. -/
def Expected.OpenName (expected : Expected) : Prop := expected = .firstName ∨ expected = .name

namespace Value

/-- The tokens supply a value wherever one may stand. -/
def Supply (tokens : List Token) (v : Value) : Prop :=
  ∀ stack (expected : Expected), expected.Open →
    tokens.foldlM Progress.next (.within stack expected) = some (.supply v stack)

/-- What is written of a value is read as that value. -/
def Legible (v : Value) : Prop := ∃ tokens, Spell v.render tokens ∧ Supply tokens v

theorem Legible.parse? {v : Value} (legible : v.Legible) : parse? v.render = some v := by
  obtain ⟨tokens, spell, supply⟩ := legible
  have read : tokens.foldlM Progress.next (.within [] .value) = some (.complete v) :=
    supply [] .value (.inl rfl)
  unfold Value.parse? ofTokens?
  rw [spell.tokens?, Option.bind_eq_bind, Option.bind_some, read]

/-! ### Values without parts -/

theorem supply_single {t : Token} {v : Value}
    (next : ∀ stack expected, Progress.next (.within stack expected) t =
      if expected = .value ∨ expected = .firstItem then some (.supply v stack) else none) :
    Supply [t] v := by
  intro stack expected here
  have step := (next stack expected).trans (if_pos here)
  rw [foldlM_cons_some step, List.foldlM_nil]
  rfl

theorem legible_natural (n : Nat) : Legible (.natural n) :=
  ⟨_, spell_digits n, supply_single fun _ _ => rfl⟩

theorem legible_text (content : List UInt8) : Legible (.text content) := by
  refine ⟨_, spell_quote content, ?_⟩
  intro stack expected here
  rcases here with rfl | rfl <;> rfl

/-! ### Arrays -/

theorem exists_spell_items {items : List Value} (legible : ∀ v ∈ items, v.Legible) :
    ∃ tokens, Spell (renderItems items) tokens ∧ (items = [] → tokens = []) ∧
      ∀ done stack (expected : Expected), items ≠ [] → expected.Open →
        tokens.foldlM Progress.next (.within (.array done :: stack) expected) =
          some (.within (.array (items.reverse ++ done) :: stack) .separator) := by
  induction items with
  | nil => exact ⟨[], .nil, fun _ => rfl, fun _ _ _ some => absurd rfl some⟩
  | cons v rest ih =>
    obtain ⟨own, spell, supply⟩ := legible v List.mem_cons_self
    obtain ⟨others, spells, -, items⟩ := ih fun w mem => legible w (List.mem_cons_of_mem v mem)
    cases rest with
    | nil => exact ⟨own, spell, nofun, fun done stack expected _ here => supply _ expected here⟩
    | cons w rest =>
      refine ⟨own ++ .comma :: others, spell.mark .comma spells, nofun, ?_⟩
      intro done stack expected _ here
      have comma : Progress.next (.within (.array (v :: done) :: stack) .separator) .comma =
          some (.within (.array (v :: done) :: stack) .value) := rfl
      rw [foldlM_append_some (supply _ expected here), Progress.supply, foldlM_cons_some comma,
        items (v :: done) stack .value (by simp) (.inl rfl)]
      simp

theorem legible_array {items : List Value} (legible : ∀ v ∈ items, v.Legible) :
    Legible (.array items) := by
  obtain ⟨tokens, spell, none, supply⟩ := exists_spell_items legible
  refine ⟨_, Spell.nil.mark .openArray (spell.mark .closeArray .nil), ?_⟩
  intro stack expected here
  have opens : Progress.next (.within stack expected) .openArray =
      some (.within (.array [] :: stack) .firstItem) := if_pos here
  rw [List.nil_append, foldlM_cons_some opens]
  by_cases empty : items = []
  · rw [none empty, empty]
    rfl
  · have closes : Progress.next (.within (.array items.reverse :: stack) .separator) .closeArray =
        some (.supply (.array items) stack) := by
      simp [Progress.next]
    rw [foldlM_append_some (supply [] stack .firstItem empty (.inr rfl)), List.append_nil,
      foldlM_cons_some closes]
    rfl

/-! ### Objects -/

theorem exists_spell_member (name : List UInt8) {v : Value} (legible : v.Legible) :
    ∃ tokens, Spell (quote name ++ 58 :: v.render) tokens ∧
      ∀ done former stack (expected : Expected), expected.OpenName →
        tokens.foldlM Progress.next (.within (.object done former :: stack) expected) =
          some (.within (.object ((name, v) :: done) [] :: stack) .separator) := by
  obtain ⟨tokens, spell, supply⟩ := legible
  refine ⟨_, (spell_quote name).mark .colon spell, ?_⟩
  intro done former stack expected here
  have named : Progress.next (.within (.object done former :: stack) expected) (.text name) =
      some (.within (.object done name :: stack) .colon) := by
    rcases here with rfl | rfl <;> rfl
  have colon : Progress.next (.within (.object done name :: stack) .colon) .colon =
      some (.within (.object done name :: stack) .value) := rfl
  rw [List.singleton_append, foldlM_cons_some named, foldlM_cons_some colon,
    supply _ .value (.inl rfl)]
  rfl

theorem exists_spell_members {members : List (List UInt8 × Value)}
    (legible : ∀ m ∈ members, m.2.Legible) :
    ∃ tokens, Spell (renderMembers members) tokens ∧ (members = [] → tokens = []) ∧
      ∀ done former stack (expected : Expected), members ≠ [] → expected.OpenName →
        tokens.foldlM Progress.next (.within (.object done former :: stack) expected) =
          some (.within (.object (members.reverse ++ done) [] :: stack) .separator) := by
  induction members with
  | nil => exact ⟨[], .nil, fun _ => rfl, fun _ _ _ _ some => absurd rfl some⟩
  | cons m rest ih =>
    obtain ⟨name, v⟩ := m
    obtain ⟨own, spell, member⟩ :=
      exists_spell_member name (legible (name, v) List.mem_cons_self)
    obtain ⟨others, spells, -, members⟩ := ih fun w mem => legible w (List.mem_cons_of_mem _ mem)
    cases rest with
    | nil =>
      exact ⟨own, spell, nofun, fun done former stack expected _ here =>
        member done former stack expected here⟩
    | cons w rest =>
      have written : renderMembers ((name, v) :: w :: rest) =
          (quote name ++ 58 :: v.render) ++ 44 :: renderMembers (w :: rest) := by
        simp [renderMembers]
      refine ⟨own ++ .comma :: others, written ▸ spell.mark .comma spells, nofun, ?_⟩
      intro done former stack expected _ here
      have comma : Progress.next (.within (.object ((name, v) :: done) [] :: stack) .separator)
          .comma = some (.within (.object ((name, v) :: done) [] :: stack) .name) := rfl
      rw [foldlM_append_some (member done former stack expected here), foldlM_cons_some comma,
        members ((name, v) :: done) [] stack .name (by simp) (.inr rfl)]
      simp

theorem legible_object {members : List (List UInt8 × Value)}
    (legible : ∀ m ∈ members, m.2.Legible) : Legible (.object members) := by
  obtain ⟨tokens, spell, none, supply⟩ := exists_spell_members legible
  refine ⟨_, Spell.nil.mark .openObject (spell.mark .closeObject .nil), ?_⟩
  intro stack expected here
  have opens : Progress.next (.within stack expected) .openObject =
      some (.within (.object [] [] :: stack) .firstName) := if_pos here
  rw [List.nil_append, foldlM_cons_some opens]
  by_cases empty : members = []
  · rw [none empty, empty]
    rfl
  · have closes : Progress.next (.within (.object members.reverse [] :: stack) .separator)
        .closeObject = some (.supply (.object members) stack) := by
      simp [Progress.next]
    rw [foldlM_append_some (supply [] [] stack .firstName empty (.inl rfl)), List.append_nil,
      foldlM_cons_some closes]
    rfl

end Value

end ArtifactTrust.Json
