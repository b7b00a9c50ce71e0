import ArtifactTrust.Proofs.Registry.Endpoints

/-!
# The grammar of registry references

The parser reads exactly the texts put together from a host, components, and a tag, a digest or
both. The parts can be told from the text, and what is printed is such a text again.
-/

namespace ArtifactTrust.Reference

set_option autoImplicit false

open Text Url

/-! ### Names by their patterns -/

/-- The characters of a host: ASCII letters and digits, `.`, `-`, `:` and brackets. -/
def InHost (c : Char) : Prop := c.isAlphanum = true ∨ c ∈ ['.', '-', ':', '[', ']']

/-- The pattern `[A-Za-z0-9_][A-Za-z0-9_.-]{0,127}`. -/
def IsTag (tag : List Char) : Prop :=
  ∃ first rest, tag = first :: rest ∧ (first.isAlphanum = true ∨ first = '_') ∧
    rest.length ≤ 127 ∧ ∀ c ∈ rest, c.isAlphanum = true ∨ c ∈ ['_', '.', '-']

theorem isAlphanumeric_eq (c : Char) : isAlphanumeric c = c.isAlphanum := by
  have upper : (decide ('A' ≤ c) && decide (c ≤ 'Z')) = c.isUpper :=
    (Bool.decide_and ('A' ≤ c) (c ≤ 'Z')).symm
  have split : c.isAlphanum = (c.isUpper || c.isLower || c.isDigit) := rfl
  unfold isAlphanumeric
  rw [upper, split, Bool.or_comm (isLower c)]
  rfl

theorem isHostCharacter_iff {c : Char} : isHostCharacter c = true ↔ InHost c := by
  simp only [isHostCharacter, InHost, isAlphanumeric_eq, Bool.or_eq_true, beq_iff_eq,
    List.mem_cons, List.not_mem_nil, or_false, or_assoc]

theorem isTagStart_iff {c : Char} : isTagStart c = true ↔ c.isAlphanum = true ∨ c = '_' := by
  simp only [isTagStart, isAlphanumeric_eq, Bool.or_eq_true, beq_iff_eq]

theorem isTagRest_iff {c : Char} :
    isTagRest c = true ↔ c.isAlphanum = true ∨ c ∈ ['_', '.', '-'] := by
  simp only [isTagRest, isTagStart_iff, Bool.or_eq_true, beq_iff_eq, List.mem_cons,
    List.not_mem_nil, or_false, or_assoc]

theorem isPathCharacter_of_isTagRest {c : Char} (h : isTagRest c = true) :
    isPathCharacter c = true := by
  simp [isPathCharacter, h]

theorem byteSize_of_isTagRest {cs : List Char} (rest : ∀ c ∈ cs, isTagRest c = true) :
    byteSize cs = cs.length := by
  induction cs with
  | nil => rfl
  | cons c cs ih =>
    have ascii := toNat_lt_of_isPathCharacter
      (isPathCharacter_of_isTagRest (rest c List.mem_cons_self))
    have one : c.utf8Size = 1 :=
      forall_ascii (p := fun c => c.utf8Size = 1) (by decide +kernel) ascii
    have later := ih fun d mem => rest d (List.mem_cons_of_mem c mem)
    unfold byteSize at later ⊢
    rw [List.foldr_cons, later, one, List.length_cons, Nat.add_comm]

/-- A tag is counted in bytes, which are its characters if all of them are allowed. -/
theorem checkTag_eq_ok_iff {tag : List Char} : checkTag tag = .ok () ↔ IsTag tag := by
  constructor
  · intro checked
    obtain ⟨⟨first, rest, rfl, start⟩, chars⟩ := of_checkTag checked
    have size : ¬ maxTagSize < byteSize (first :: rest) := by
      intro large
      simp [checkTag, large] at checked
    rw [byteSize_of_isTagRest chars, List.length_cons] at size
    refine ⟨first, rest, rfl, isTagStart_iff.mp start, by unfold maxTagSize at size; omega, ?_⟩
    exact fun c mem => isTagRest_iff.mp (chars c (List.mem_cons_of_mem first mem))
  · rintro ⟨first, rest, rfl, start, short, chars⟩
    have start := isTagStart_iff.mpr start
    have chars : ∀ c ∈ rest, isTagRest c = true := fun c mem => isTagRest_iff.mpr (chars c mem)
    have all : ∀ c ∈ first :: rest, isTagRest c = true := by
      rw [List.forall_mem_cons]
      exact ⟨by simp [isTagRest, start], chars⟩
    have size : ¬ maxTagSize < byteSize (first :: rest) := by
      rw [byteSize_of_isTagRest all, List.length_cons]
      unfold maxTagSize
      omega
    simp only [checkTag, if_neg size, start, List.all_eq_true.mpr chars, Bool.and_self, if_true]

/-! ### Characters that separate -/

theorem separate_host {c : Char} (h : isHostCharacter c = true) :
    c ≠ '/' ∧ c ≠ '@' ∧ isBlank c = false :=
  forall_ascii (p := fun c => isHostCharacter c = true → c ≠ '/' ∧ c ≠ '@' ∧ isBlank c = false)
    (by decide +kernel) (toNat_lt_of_isHostCharacter h) h

theorem separate_rest {c : Char} (h : isTagRest c = true) :
    c ≠ '/' ∧ c ≠ '\\' ∧ c ≠ ':' ∧ c ≠ '@' :=
  forall_ascii (p := fun c => isTagRest c = true → c ≠ '/' ∧ c ≠ '\\' ∧ c ≠ ':' ∧ c ≠ '@')
    (by decide +kernel) (toNat_lt_of_isPathCharacter (isPathCharacter_of_isTagRest h)) h

theorem isBlank_of_isPathCharacter {c : Char} (h : isPathCharacter c = true) :
    isBlank c = false :=
  forall_ascii (p := fun c => isPathCharacter c = true → isBlank c = false)
    (by decide +kernel) (toNat_lt_of_isPathCharacter h) h

theorem trim_eq_self {cs : List Char} (solid : ∀ c ∈ cs, isBlank c = false) : trim cs = cs := by
  have start : cs.dropWhile isBlank = cs := by
    cases cs with
    | nil => rfl
    | cons c rest => rw [List.dropWhile_cons, solid c List.mem_cons_self]; rfl
  have ends : cs.reverse.dropWhile isBlank = cs.reverse := by
    cases back : cs.reverse with
    | nil => rfl
    | cons c rest =>
      have mem : c ∈ cs := List.mem_reverse.mp (back ▸ List.mem_cons_self)
      rw [List.dropWhile_cons, solid c mem]
      rfl
  rw [trim, trimStart, start, trimEnd, ends, List.reverse_reverse]

/-! ### Spellings -/

/-- The parts that a registry reference is written with. -/
structure Spelling where
  host : List Char
  components : List (List Char)
  tag : Option (List Char)
  digest : Option String

namespace Spelling

variable {w w' : Spelling} {r : Reference} {s : String}

def locator (w : Spelling) : List Char := w.host ++ '/' :: joined '/' w.components

def name (w : Spelling) : List Char := w.locator ++ behind ':' w.tag

def text (w : Spelling) : List Char := w.name ++ behind '@' (w.digest.map String.toList)

/-- The digest if there is one, and else the tag. -/
def selector? (w : Spelling) : Option Selector :=
  (w.digest.map .digest).or (w.tag.map fun tag => .tag (String.ofList tag))

structure Valid (w : Spelling) : Prop where
  hosted : w.host ≠ []
  host : ∀ c ∈ w.host, InHost c
  named : w.components ≠ []
  components : ∀ c ∈ w.components, checkComponent c = .ok ()
  tag : ∀ tag, w.tag = some tag → IsTag tag
  digest : ∀ digest, w.digest = some digest → Digest.WellFormed digest
  selects : w.tag.isSome ∨ w.digest.isSome

/-- The text between the outer blanks of `s` is put together from the parts. -/
def Spells (w : Spelling) (s : String) : Prop := w.Valid ∧ trim s.toList = w.text

/-- What a reference says that was written with the parts. -/
structure Means (w : Spelling) (r : Reference) : Prop where
  locator : r.locator = String.ofList w.locator
  selector : w.selector? = some r.selector
  registry : r.registry = String.ofList w.host
  repository : r.repository = String.ofList (joined '/' w.components)
  whole : r.registry ++ "/" ++ r.repository = r.locator

namespace Valid

variable (valid : w.Valid)
include valid

theorem isHostCharacter_of_mem {c : Char} (mem : c ∈ w.host) : isHostCharacter c = true :=
  isHostCharacter_iff.mpr (valid.host c mem)

theorem slash_notMem_host : '/' ∉ w.host := fun mem =>
  (separate_host (valid.isHostCharacter_of_mem mem)).1 rfl

theorem isTagRest_of_mem_component {component : List Char} (listed : component ∈ w.components)
    {c : Char} (mem : c ∈ component) : isTagRest c = true :=
  (of_checkComponent (valid.components component listed)).2 c mem

theorem isTagRest_of_mem_joined {c : Char} (mem : c ∈ joined '/' w.components) :
    c = '/' ∨ isTagRest c = true := by
  rcases mem_joined mem with rfl | ⟨component, listed, mem⟩
  · exact .inl rfl
  · exact .inr (valid.isTagRest_of_mem_component listed mem)

theorem isTagRest_of_mem_tag {tag : List Char} (tagged : w.tag = some tag) {c : Char}
    (mem : c ∈ tag) : isTagRest c = true :=
  (of_checkTag (checkTag_eq_ok_iff.mpr (valid.tag tag tagged))).2 c mem

theorem of_mem_name {c : Char} (mem : c ∈ w.name) :
    isHostCharacter c = true ∨ c = '/' ∨ isTagRest c = true := by
  rcases List.mem_append.mp mem with mem | mem
  · rcases List.mem_append.mp mem with mem | mem
    · exact .inl (valid.isHostCharacter_of_mem mem)
    rcases List.mem_cons.mp mem with rfl | mem
    · exact .inr (.inl rfl)
    · exact .inr (valid.isTagRest_of_mem_joined mem)
  · cases tagged : w.tag with
    | none =>
      rw [tagged] at mem
      cases mem
    | some tag =>
      rw [tagged] at mem
      rcases List.mem_cons.mp mem with rfl | mem
      · exact .inl (by decide)
      · exact .inr (.inr (valid.isTagRest_of_mem_tag tagged mem))

theorem at_notMem_name : '@' ∉ w.name := by
  intro mem
  rcases valid.of_mem_name mem with host | slash | rest
  · exact (separate_host host).2.1 rfl
  · exact absurd slash (by decide)
  · exact (separate_rest rest).2.2.2 rfl

theorem isBlank_of_mem_text {c : Char} (mem : c ∈ w.text) : isBlank c = false := by
  rcases List.mem_append.mp mem with mem | mem
  · rcases valid.of_mem_name mem with host | rfl | rest
    · exact (separate_host host).2.2
    · decide
    · exact isBlank_of_isPathCharacter (isPathCharacter_of_isTagRest rest)
  · cases pinned : w.digest with
    | none =>
      rw [pinned] at mem
      cases mem
    | some digest =>
      rw [pinned] at mem
      rcases List.mem_cons.mp mem with rfl | mem
      · decide
      · exact isBlank_of_isPathCharacter ((valid.digest digest pinned).plainPart.chars c mem)

/-! ### The parser reads every spelling -/

/-- No colon of the host starts a tag, because a path separator is behind it. -/
theorem cutTag_locator : cutTag w.locator = none := by
  unfold cutTag
  cases cut : cutLast ':' w.locator with
  | none => rfl
  | some sides =>
    obtain ⟨before, after⟩ := sides
    obtain ⟨same, -⟩ := cutLast_eq_some cut
    have later : '/' ∈ after := by
      rcases List.append_eq_append_iff.mp same with ⟨front, -, path⟩ | ⟨back, -, rest⟩
      · have colon : ':' ∈ '/' :: joined '/' w.components := by rw [path]; simp
        rcases List.mem_cons.mp colon with wrong | mem
        · exact absurd wrong (by decide)
        rcases valid.isTagRest_of_mem_joined mem with wrong | rest
        · exact absurd wrong (by decide)
        · exact absurd rfl (separate_rest rest).2.2.1
      · cases back with
        | nil => exact absurd (List.cons.inj rest).1 (by decide)
        | cons c back =>
          rw [(List.cons.inj rest).2]
          simp
    simp [later]

theorem cutTag_name : cutTag w.name = w.tag.map fun tag => (w.locator, tag) := by
  unfold name
  cases tagged : w.tag with
  | none => rw [behind, List.append_nil, valid.cutTag_locator, Option.map_none]
  | some tag =>
    have free {c : Char} (sep : c = '/' ∨ c = '\\' ∨ c = ':') : c ∉ tag := by
      intro mem
      obtain ⟨slash, backslash, colon, -⟩ := separate_rest (valid.isTagRest_of_mem_tag tagged mem)
      exact sep.elim slash fun other => other.elim backslash colon
    have cut : cutLast ':' (w.locator ++ ':' :: tag) = some (w.locator, tag) :=
      cutLast_append (free (by simp))
    rw [behind, cutTag, cut, Option.map_some]
    simp [free]

theorem splitTag_name : splitTag w.name = .ok (w.tag.map fun tag => (w.locator, tag)) := by
  unfold splitTag
  rw [valid.cutTag_name]
  cases tagged : w.tag with
  | none => rfl
  | some tag =>
    have checked := checkTag_eq_ok_iff.mpr (valid.tag tag tagged)
    simp only [Option.map_some, checked]
    rfl

theorem cutLast_text :
    cutLast '@' w.text = (w.digest.map String.toList).map fun digest => (w.name, digest) := by
  unfold text
  cases pinned : w.digest with
  | none =>
    rw [Option.map_none, behind, List.append_nil]
    exact cutLast_eq_none.mpr valid.at_notMem_name
  | some digest => exact cutLast_append (valid.digest digest pinned).at_notMem

theorem split_text {selector : Selector} (selected : w.selector? = some selector) :
    split w.text = .ok (w.locator, selector) := by
  unfold split
  rw [valid.cutLast_text]
  cases pinned : w.digest with
  | none =>
    have same : w.text = w.name := by simp [text, pinned, behind]
    rw [same, valid.splitTag_name]
    cases tagged : w.tag with
    | none => simp [selector?, pinned, tagged] at selected
    | some tag =>
      rw [selector?, pinned, tagged] at selected
      cases selected
      rfl
  | some digest =>
    rw [selector?, pinned] at selected
    cases selected
    obtain ⟨parts, validated⟩ := (valid.digest digest pinned).validates
    simp only [Option.map_some, String.ofList_toList, validated, valid.splitTag_name]
    cases tagged : w.tag with
    | none =>
      rw [name, tagged, behind, List.append_nil]
      rfl
    | some tag => rfl

theorem checkRegistryLocator_locator : checkRegistryLocator w.locator = .ok () := by
  have free : ∀ c ∈ w.components, '/' ∉ c := fun c listed mem =>
    (separate_rest (valid.isTagRest_of_mem_component listed mem)).1 rfl
  have host : w.host.all isHostCharacter = true :=
    List.all_eq_true.mpr fun c mem => valid.isHostCharacter_of_mem mem
  unfold checkRegistryLocator locator
  rw [cutFirst_append valid.slash_notMem_host]
  simp only [List.isEmpty_eq_false_iff.mpr valid.hosted, host, Bool.not_true, Bool.or_self,
    Bool.false_eq_true, if_false, pieces_joined free valid.named]
  exact checkComponents_eq_ok_iff.mpr valid.components

theorem trim_text : trim w.text = w.text := trim_eq_self fun _ mem => valid.isBlank_of_mem_text mem

theorem exists_selector : ∃ selector, w.selector? = some selector := by
  unfold selector?
  cases pinned : w.digest with
  | some digest => exact ⟨.digest digest, rfl⟩
  | none =>
    cases tagged : w.tag with
    | some tag => exact ⟨.tag (String.ofList tag), rfl⟩
    | none =>
      have selects := valid.selects
      simp [pinned, tagged] at selects

theorem means {selector : Selector} (selected : w.selector? = some selector) :
    w.Means ⟨String.ofList w.locator, selector⟩ := by
  have cut : cutFirst? '/' (String.ofList w.locator) =
      some (String.ofList w.host, String.ofList (joined '/' w.components)) := by
    rw [cutFirst?, String.toList_ofList, locator, cutFirst_append valid.slash_notMem_host]
    rfl
  have registry : Reference.registry ⟨String.ofList w.locator, selector⟩ =
      String.ofList w.host := by
    rw [Reference.registry, cut]
  have repository : Reference.repository ⟨String.ofList w.locator, selector⟩ =
      String.ofList (joined '/' w.components) := by
    rw [Reference.repository, cut]
  refine ⟨rfl, selected, registry, repository, ?_⟩
  rw [registry, repository]
  simp [locator, ← String.toList_inj]

end Valid

theorem Means.eq {r r' : Reference} (means : w.Means r) (means' : w.Means r') : r = r' := by
  obtain ⟨locator, selector⟩ := r
  obtain ⟨locator', selector'⟩ := r'
  have same := means.locator.trans means'.locator.symm
  have selected := Option.some.inj (means.selector.symm.trans means'.selector)
  simp only at same selected
  rw [same, selected]

theorem Spells.parses (spells : w.Spells s) : ∃ r, parse .registry s = .ok r ∧ w.Means r := by
  obtain ⟨valid, written⟩ := spells
  obtain ⟨selector, selected⟩ := valid.exists_selector
  refine ⟨⟨String.ofList w.locator, selector⟩, ?_, valid.means selected⟩
  have located : w.locator.isEmpty = false := by simp [locator]
  have filled : w.text.isEmpty = false := by simp [text, name, locator]
  unfold parse
  rw [written]
  simp only [filled, valid.split_text selected, Bool.false_eq_true, if_false, if_true]
  rw [bind_ok]
  simp only [located, valid.checkRegistryLocator_locator, Bool.false_eq_true, if_false]
  rfl

/-! ### The parser reads nothing else -/

theorem exists_spells_of_parse (parsed : parse .registry s = .ok r) :
    ∃ w : Spelling, w.Spells s := by
  obtain ⟨locator, splits, same, -⟩ := split_of_parse parsed
  have checked := checkRegistryLocator_of_parse parsed
  rw [same, String.toList_ofList] at checked
  obtain ⟨host, components, cut, hosted, allowed, named, accepted⟩ :=
    of_checkRegistryLocator checked
  obtain ⟨rfl, -⟩ := cutFirst_eq_some cut
  have inHost : ∀ c ∈ host, InHost c := fun c mem => isHostCharacter_iff.mp (allowed c mem)
  rcases of_split splits with ⟨tag, -, checked, written⟩ |
    ⟨tag, digest, -, wellFormed, checked, written⟩
  · refine ⟨⟨host, components, some tag, none⟩,
      ⟨hosted, inHost, named, accepted, ?_, by simp, by simp⟩, ?_⟩
    · intro tag' same
      cases same
      exact checkTag_eq_ok_iff.mp checked
    · simp [written, text, name, Spelling.locator, behind]
  · refine ⟨⟨host, components, tag, some digest⟩,
      ⟨hosted, inHost, named, accepted, ?_, ?_, by simp⟩, ?_⟩
    · exact fun tag' same => checkTag_eq_ok_iff.mp (checked tag' same)
    · intro digest' same
      cases same
      exact wellFormed
    · simp [written, text, name, Spelling.locator, behind]

/-! ### The parts can be told from the text -/

theorem eq_of_behind {sep : Char} {a a' : List Char} {x x' : Option (List Char)}
    (same : a ++ behind sep x = a' ++ behind sep x')
    (cut : x.map (fun name => (a, name)) = x'.map fun name => (a', name)) : a = a' ∧ x = x' := by
  cases x with
  | none =>
    cases x' with
    | none => exact ⟨by simpa [behind] using same, rfl⟩
    | some name => cases cut
  | some name =>
    cases x' with
    | none => cases cut
    | some name' =>
      cases cut
      exact ⟨rfl, rfl⟩

theorem Valid.eq (valid : w.Valid) (valid' : w'.Valid) (same : w.text = w'.text) : w = w' := by
  have cut := valid.cutLast_text
  rw [same, valid'.cutLast_text] at cut
  obtain ⟨named, pinned⟩ := eq_of_behind same cut.symm
  have cut := valid.cutTag_name
  rw [named, valid'.cutTag_name] at cut
  obtain ⟨located, tagged⟩ := eq_of_behind named cut.symm
  have free {v : Spelling} (valid : v.Valid) : ∀ c ∈ v.components, '/' ∉ c :=
    fun c listed mem => (separate_rest (valid.isTagRest_of_mem_component listed mem)).1 rfl
  have cut : cutFirst '/' w.locator = some (w.host, joined '/' w.components) :=
    cutFirst_append valid.slash_notMem_host
  rw [located, locator, cutFirst_append valid'.slash_notMem_host] at cut
  obtain ⟨host, path⟩ := Prod.mk.inj (Option.some.inj cut)
  have components := congrArg (pieces '/') path
  rw [pieces_joined (free valid) valid.named, pieces_joined (free valid') valid'.named]
    at components
  have digest : w.digest = w'.digest :=
    Option.map_injective (fun _ _ => String.toList_inj.mp) pinned
  cases w
  cases w'
  simp only at host components tagged digest
  rw [host, components, tagged, digest]

/-! ### What is printed of a reference -/

/-- Without the tag, and with a digest. -/
def pinned (w : Spelling) (digest : String) : Spelling :=
  { w with tag := none, digest := some digest }

theorem text_pinned (digest : String) :
    (w.pinned digest).text = w.locator ++ '@' :: digest.toList := by
  have named : (w.pinned digest).name = w.locator := List.append_nil w.locator
  rw [text, named]
  rfl

theorem Valid.pinned (valid : w.Valid) {digest : String} (wellFormed : Digest.WellFormed digest) :
    (w.pinned digest).Valid where
  hosted := valid.hosted
  host := valid.host
  named := valid.named
  components := valid.components
  tag := by simp [Spelling.pinned]
  digest := by
    intro digest' same
    cases same
    exact wellFormed
  selects := .inr rfl

theorem Means.withDigest (means : w.Means r) (digest : String) :
    (w.pinned digest).Means (r.withDigest digest) :=
  ⟨means.locator, rfl, means.registry, means.repository, means.whole⟩

theorem Means.parse_of_text (means : w.Means r) (valid : w.Valid)
    (printed : r.text.toList = w.text) : parse .registry r.text = .ok r := by
  have spells : w.Spells r.text := ⟨valid, by rw [printed, valid.trim_text]⟩
  obtain ⟨r', parsed, means'⟩ := spells.parses
  rw [parsed, means'.eq means]

theorem Means.parse_withDigest (means : w.Means r) (valid : w.Valid) {digest : String}
    (wellFormed : Digest.WellFormed digest) :
    parse .registry (r.withDigest digest).text = .ok (r.withDigest digest) := by
  have located : r.locator.toList = w.locator := by rw [means.locator, String.toList_ofList]
  refine (means.withDigest digest).parse_of_text (valid.pinned wellFormed) ?_
  rw [text_pinned, ← located]
  simp [Reference.text, Reference.withDigest]

theorem Means.parse_text (means : w.Means r) (valid : w.Valid) :
    parse .registry r.text = .ok r := by
  have selected := means.selector
  unfold selector? at selected
  cases pinned : w.digest with
  | some digest =>
    rw [pinned] at selected
    have same : r = r.withDigest digest := by
      obtain ⟨locator, selector⟩ := r
      cases selected
      rfl
    rw [same]
    exact means.parse_withDigest valid (valid.digest digest pinned)
  | none =>
    refine means.parse_of_text valid ?_
    have located : r.locator.toList = w.locator := by rw [means.locator, String.toList_ofList]
    cases tagged : w.tag with
    | none => simp [pinned, tagged] at selected
    | some tag =>
      rw [pinned, tagged] at selected
      have named : r.selector = .tag (String.ofList tag) := (Option.some.inj selected).symm
      simp only [Reference.text, named, String.toList_append, located, text, name, pinned, tagged,
        behind, Option.map_none, List.append_nil, String.toList_ofList]
      simp

end Spelling

/-- The language of registry references and what its texts mean. A text is read if and only if it
is spelled by the grammar; it is so in one way, the reference says what the parts do, and what is
printed of it, or of it with another digest, is read as the same reference. -/
theorem registry_grammar (s : String) :
    ((∃ r, parse .registry s = .ok r) ↔ ∃ w : Spelling, w.Spells s) ∧
      ∀ w : Spelling, w.Spells s → (∀ w' : Spelling, w'.Spells s → w' = w) ∧
        ∃ r, parse .registry s = .ok r ∧ w.Means r ∧
          parse .registry r.text = .ok r ∧
          ∀ digest, Digest.WellFormed digest →
            parse .registry (r.withDigest digest).text = .ok (r.withDigest digest) := by
  refine ⟨⟨?_, ?_⟩, ?_⟩
  · rintro ⟨r, parsed⟩
    exact Spelling.exists_spells_of_parse parsed
  · rintro ⟨w, spells⟩
    obtain ⟨r, parsed, -⟩ := spells.parses
    exact ⟨r, parsed⟩
  · intro w spells
    obtain ⟨r, parsed, means⟩ := spells.parses
    refine ⟨?_, r, parsed, means, means.parse_text spells.1, ?_⟩
    · exact fun w' spells' => spells'.1.eq spells.1 (spells'.2.symm.trans spells.2)
    · exact fun digest wellFormed => means.parse_withDigest spells.1 wellFormed

/-! A host with a port, and a tag that the digest overrides. -/

def portedDigest (digit : Char) : String := "sha256:" ++ String.ofList (List.replicate 64 digit)

def ported : Spelling where
  host := "localhost:5000".toList
  components := ["team".toList, "app".toList]
  tag := some "v1".toList
  digest := some (portedDigest 'a')

def portedText : String := " localhost:5000/team/app:v1@" ++ portedDigest 'a' ++ " "

theorem portedDigest_wellFormed {digit : Char} (hex : isLowerHex digit = true) :
    Digest.WellFormed (portedDigest digit) := by
  refine ⟨(.sha256, String.ofList (List.replicate 64 digit)), Digest.parse_eq_ok_iff.mpr
    ⟨rfl, by rw [String.toList_ofList, List.length_replicate]; rfl, ?_⟩⟩
  rw [String.toList_ofList, List.all_eq_true]
  intro c mem
  rw [(List.mem_replicate.mp mem).2]
  exact hex

theorem ported_spells : ported.Spells portedText := by
  refine ⟨⟨by decide, ?_, by decide, ?_, ?_, ?_, .inl rfl⟩, by decide +kernel⟩
  · have host : ported.host.all isHostCharacter = true := by decide
    exact fun c mem => isHostCharacter_iff.mp (List.all_eq_true.mp host c mem)
  · exact checkComponents_eq_ok_iff.mp rfl
  · intro tag same
    cases same
    exact checkTag_eq_ok_iff.mp rfl
  · intro digest same
    cases same
    exact portedDigest_wellFormed (by decide)

theorem registry_grammar_ported :
    ported.Spells portedText ∧ ∃ r, parse .registry portedText = .ok r ∧
      r.registry = "localhost:5000" ∧ r.repository = "team/app" ∧
      r.text = "localhost:5000/team/app@" ++ portedDigest 'a' ∧ parse .registry r.text = .ok r ∧
      parse .registry (r.withDigest (portedDigest 'b')).text =
        .ok (r.withDigest (portedDigest 'b')) := by
  obtain ⟨-, r, parsed, means, printed, others⟩ :=
    (registry_grammar portedText).2 ported ported_spells
  have selected : r.selector = .digest (portedDigest 'a') :=
    (Option.some.inj means.selector).symm
  refine ⟨ported_spells, r, parsed, means.registry.trans rfl, means.repository.trans ?_, ?_,
    printed, others _ (portedDigest_wellFormed (by decide))⟩
  · decide
  · rw [text, selected, means.locator]
    decide +kernel

end ArtifactTrust.Reference
