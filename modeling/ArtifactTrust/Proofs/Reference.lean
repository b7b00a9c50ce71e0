import ArtifactTrust.Proofs.Digest
import ArtifactTrust.Proofs.Except
import ArtifactTrust.Reference

/-!
# What a parsed reference was written as

The checks of names, read backwards: which parts passed, with which characters, and from them what a
reference was written with.
-/

namespace ArtifactTrust.Reference

set_option autoImplicit false

open Text

variable {cs locator : List Char} {selector : Selector} {digest : String}

@[simp] theorem blame_eq_ok_iff {α : Type} {x : Except ReferenceFault α} {a : α} :
    blame cs x = .ok a ↔ x = .ok a := by
  cases x with
  | ok b => simp [blame]
  | error fault => simp [blame]

/-! ### Names -/

theorem of_checkTag {tag : List Char} (checked : checkTag tag = .ok ()) :
    (∃ c rest, tag = c :: rest ∧ isTagStart c = true) ∧ ∀ d ∈ tag, isTagRest d = true := by
  unfold checkTag at checked
  cases tag with
  | nil => cases checked
  | cons c rest =>
    simp only at checked
    split at checked
    · cases checked
    split at checked
    · rename_i rules
      simp only [Bool.and_eq_true, List.all_eq_true] at rules
      refine ⟨⟨c, rest, rfl, rules.1⟩, ?_⟩
      intro d mem
      rcases List.mem_cons.mp mem with rfl | mem
      · simp [isTagRest, rules.1]
      · exact rules.2 d mem
    · cases checked

theorem of_checkComponent {component : List Char}
    (checked : checkComponent component = .ok ()) :
    (∃ c rest, component = c :: rest ∧ isTagStart c = true) ∧
      ∀ d ∈ component, isTagRest d = true := by
  have lower {c : Char} (h : isLowerAlphanumeric c = true) : isTagStart c = true := by
    simp only [isLowerAlphanumeric, Bool.or_eq_true] at h
    rcases h with h | h <;> simp [isTagStart, isAlphanumeric, h]
  unfold checkComponent at checked
  split at checked
  · cases checked
  split at checked
  · cases checked
  split at checked
  · cases checked
  rename_i nonempty ends chars
  cases component with
  | nil => exact absurd rfl nonempty
  | cons c rest =>
    simp only [List.head?_cons, Option.any_some, Bool.not_eq_true', Bool.and_eq_false_imp,
      Bool.not_eq_false, Classical.not_imp] at ends
    simp only [Bool.not_eq_true', List.all_eq_false, not_exists, not_and, Bool.not_eq_true,
      Bool.not_eq_false] at chars
    refine ⟨⟨c, rest, rfl, lower ends.1⟩, ?_⟩
    intro d mem
    have rule := chars d mem
    simp only [Bool.or_eq_true, beq_iff_eq] at rule
    rcases rule with ((h | rfl) | rfl) | rfl
    · simp [isTagRest, lower h]
    · decide
    · decide
    · decide

theorem checkComponents_eq_ok_iff {components : List (List Char)} :
    checkComponents components = .ok () ↔ ∀ c ∈ components, checkComponent c = .ok () := by
  induction components with
  | nil => simp [checkComponents]
  | cons first rest ih =>
    rw [checkComponents, seq_eq_ok_iff, ih, List.forall_mem_cons]

theorem of_checkRegistryLocator (checked : checkRegistryLocator locator = .ok ()) :
    ∃ host components, cutFirst '/' locator = some (host, joined '/' components) ∧ host ≠ [] ∧
      (∀ c ∈ host, isHostCharacter c = true) ∧ components ≠ [] ∧
      ∀ c ∈ components, checkComponent c = .ok () := by
  unfold checkRegistryLocator at checked
  cases cut : cutFirst '/' locator with
  | none =>
    rw [cut] at checked
    cases checked
  | some sides =>
    obtain ⟨host, path⟩ := sides
    simp only [cut] at checked
    split at checked
    · cases checked
    rename_i allowed
    simp only [Bool.or_eq_true, List.isEmpty_iff, Bool.not_eq_true', List.all_eq_false,
      not_or, not_exists, not_and, Bool.not_eq_true, Bool.not_eq_false] at allowed
    refine ⟨host, pieces '/' path, by rw [joined_pieces], allowed.1, allowed.2,
      pieces_ne_nil '/' path, checkComponents_eq_ok_iff.mp checked⟩

/-! ### Splitting -/

theorem splitTag_eq_ok_some {name before tag : List Char}
    (h : splitTag name = .ok (some (before, tag))) : name = before ++ ':' :: tag := by
  unfold splitTag at h
  cases cut : cutTag name with
  | none =>
    rw [cut] at h
    cases h
  | some sides =>
    obtain ⟨b, t⟩ := sides
    simp only [cut] at h
    obtain ⟨-, h⟩ := seq_eq_ok_iff.mp h
    cases h
    unfold cutTag at cut
    cases last : cutLast ':' name with
    | none =>
      rw [last] at cut
      cases cut
    | some sides =>
      obtain ⟨b', t'⟩ := sides
      simp only [last] at cut
      split at cut
      · cases cut
      · cases cut
        exact (cutLast_eq_some last).1

theorem checkTag_of_splitTag {name before tag : List Char}
    (h : splitTag name = .ok (some (before, tag))) : checkTag tag = .ok () := by
  unfold splitTag at h
  cases cut : cutTag name with
  | none =>
    rw [cut] at h
    cases h
  | some sides =>
    obtain ⟨b, t⟩ := sides
    simp only [cut] at h
    obtain ⟨checked, h⟩ := seq_eq_ok_iff.mp h
    cases h
    exact checked

def behind (sep : Char) : Option (List Char) → List Char
  | none => []
  | some name => sep :: name

/-- What was split: a locator with a tag, or with a digest and perhaps a tag in front of it. -/
theorem of_split (h : split cs = .ok (locator, selector)) :
    (∃ tag, selector = .tag (String.ofList tag) ∧ checkTag tag = .ok () ∧
      cs = locator ++ ':' :: tag) ∨
    ∃ tag digest, selector = .digest digest ∧ Digest.WellFormed digest ∧
      (∀ name, tag = some name → checkTag name = .ok ()) ∧
      cs = locator ++ behind ':' tag ++ '@' :: digest.toList := by
  unfold split at h
  cases cut : cutLast '@' cs with
  | none =>
    simp only [cut] at h
    obtain ⟨tagged, hs, h⟩ := bind_eq_ok_iff.mp h
    cases tagged with
    | none => simp at h
    | some sides =>
      obtain ⟨before, tag⟩ := sides
      cases h
      have split := blame_eq_ok_iff.mp hs
      exact .inl ⟨tag, rfl, checkTag_of_splitTag split, splitTag_eq_ok_some split⟩
  | some sides =>
    obtain ⟨name, after⟩ := sides
    obtain ⟨rfl, -⟩ := cutLast_eq_some cut
    simp only [cut] at h
    obtain ⟨parts, validated, h⟩ := bind_eq_ok_iff.mp h
    obtain ⟨tagged, hs, h⟩ := bind_eq_ok_iff.mp h
    have wellFormed := Digest.wellFormed_of_validate validated
    refine .inr ?_
    cases tagged with
    | none =>
      cases h
      exact ⟨none, String.ofList after, rfl, wellFormed, by simp, by simp [behind]⟩
    | some sides =>
      obtain ⟨before, tag⟩ := sides
      cases h
      have split := blame_eq_ok_iff.mp hs
      refine ⟨some tag, String.ofList after, rfl, wellFormed, ?_, ?_⟩
      · intro name same
        cases same
        exact checkTag_of_splitTag split
      · simp [behind, splitTag_eq_ok_some split]

theorem checkTag_of_split {name : String} (h : split cs = .ok (locator, .tag name)) :
    checkTag name.toList = .ok () := by
  rcases of_split h with ⟨tag, same, checked, -⟩ | ⟨tag, digest, same, -⟩
  · cases same
    rwa [String.toList_ofList]
  · cases same

theorem of_split_digest (h : split cs = .ok (locator, .digest digest)) :
    Digest.WellFormed digest ∧ (cs = locator ++ '@' :: digest.toList ∨
      ∃ tag, cs = locator ++ ':' :: tag ++ '@' :: digest.toList) := by
  rcases of_split h with ⟨tag, same, -⟩ | ⟨tag, found, same, wellFormed, -, written⟩
  · cases same
  cases same
  cases tag with
  | none => exact ⟨wellFormed, .inl (by simpa [behind] using written)⟩
  | some tag => exact ⟨wellFormed, .inr ⟨tag, written⟩⟩

theorem split_of_parse {source : Source} {text : String} {r : Reference}
    (h : parse source text = .ok r) :
    ∃ locator, split (trim text.toList) = .ok (locator, r.selector) ∧
      r.locator = String.ofList locator ∧
      (source = .registry → checkRegistryLocator locator = .ok ()) := by
  unfold parse at h
  simp only [when_bind_eq_ok_iff, bind_eq_ok_iff, Prod.exists] at h
  obtain ⟨-, locator, selector, hs, -, checked, h⟩ := h
  cases h
  exact ⟨locator, hs, rfl, fun registry => blame_eq_ok_iff.mp (checked registry)⟩

theorem checkTag_of_parse {source : Source} {text name : String} {r : Reference}
    (h : parse source text = .ok r) (byTag : r.selector = .tag name) :
    checkTag name.toList = .ok () := by
  obtain ⟨locator, hs, -⟩ := split_of_parse h
  rw [byTag] at hs
  exact checkTag_of_split hs

theorem checkRegistryLocator_of_parse {text : String} {r : Reference}
    (h : parse .registry text = .ok r) : checkRegistryLocator r.locator.toList = .ok () := by
  obtain ⟨locator, -, hl, checked⟩ := split_of_parse h
  rw [hl, String.toList_ofList]
  exact checked rfl

/-- A reference by digest that was parsed: its digest is well formed, and the text between its
outer blanks is the locator, perhaps a tag, and the digest. -/
theorem of_parse_digest {source : Source} {text : String} {r : Reference}
    (h : parse source text = .ok r) (byDigest : r.selector = .digest digest) :
    Digest.WellFormed digest ∧ (String.ofList (trim text.toList) = r.locator ++ "@" ++ digest ∨
      ∃ tag, String.ofList (trim text.toList) = r.locator ++ ":" ++ tag ++ "@" ++ digest) := by
  obtain ⟨locator, hs, hl, -⟩ := split_of_parse h
  rw [byDigest] at hs
  obtain ⟨wellFormed, written | ⟨tag, written⟩⟩ := of_split_digest hs
  · refine ⟨wellFormed, .inl (String.toList_inj.mp ?_)⟩
    simp [written, hl]
  · refine ⟨wellFormed, .inr ⟨String.ofList tag, String.toList_inj.mp ?_⟩⟩
    simp [written, hl]

end ArtifactTrust.Reference
