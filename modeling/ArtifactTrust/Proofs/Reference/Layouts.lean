import ArtifactTrust.Proofs.Reference.Grammar
import Mathlib.Data.List.DropRight

/-!
# Layout references, printed and read again

The path of a layout may hold the characters that set a tag and a digest off, so what is printed of
a reference by digest may be read as another one, or not at all.
-/

namespace ArtifactTrust.Text

set_option autoImplicit false

variable {cs a b : List Char}

/-! ### Texts between blanks -/

/-- Neither the first nor the last character is blank. -/
structure Bare (cs : List Char) : Prop where
  first : ∀ c, cs.head? = some c → isBlank c = false
  last : ∀ c, cs.getLast? = some c → isBlank c = false

theorem trim_eq_rdropWhile (cs : List Char) :
    trim cs = (cs.dropWhile isBlank).rdropWhile isBlank := rfl

theorem Bare.trim_eq (bare : Bare cs) : trim cs = cs := by
  have start : cs.dropWhile isBlank = cs := by
    cases cs with
    | nil => rfl
    | cons c rest => rw [List.dropWhile_cons, bare.first c rfl]; rfl
  rw [trim_eq_rdropWhile, start, List.rdropWhile_eq_self_iff]
  intro filled blank
  have solid := bare.last _ (List.getLast?_eq_some_getLast filled)
  rw [blank] at solid
  cases solid

theorem bare_trim (cs : List Char) : Bare (trim cs) := by
  rw [trim_eq_rdropWhile]
  refine ⟨?_, ?_⟩
  · intro c first
    have within := List.rdropWhile_prefix isBlank (cs.dropWhile isBlank)
    have start : (cs.dropWhile isBlank).head? = some c := by
      obtain ⟨rest, whole⟩ := within
      rw [← whole, List.head?_append, first, Option.some_or]
    have stops := List.head?_dropWhile_not isBlank cs
    rwa [start] at stops
  · intro c last
    have filled : (cs.dropWhile isBlank).rdropWhile isBlank ≠ [] := by
      intro empty
      rw [empty] at last
      cases last
    rw [List.getLast?_eq_some_getLast filled] at last
    cases last
    simpa using List.rdropWhile_last_not isBlank _ filled

theorem trim_trim (cs : List Char) : trim (trim cs) = trim cs := (bare_trim cs).trim_eq

theorem Bare.append (bare : Bare (a ++ b)) (filled : a ≠ []) {ending : List Char}
    (ends : ending ≠ []) (solid : ∀ c ∈ ending, isBlank c = false) : Bare (a ++ ending) := by
  refine ⟨?_, ?_⟩
  · intro c first
    rw [List.head?_append_of_ne_nil _ filled] at first
    exact bare.first c (by rw [List.head?_append_of_ne_nil _ filled, first])
  · intro c last
    rw [List.getLast?_append_of_ne_nil _ ends] at last
    exact solid c (List.mem_of_getLast? last)

end ArtifactTrust.Text

namespace ArtifactTrust.Reference

set_option autoImplicit false

open Text

variable {path before tail locator : List Char} {selector : Selector} {digest s : String}
  {r r' : Reference}

/-! ### The last name of a path -/

def isPathSeparator (c : Char) : Bool := c == '/' || c == '\\'

/-- What is behind the last separator of a path. -/
def lastName (path : List Char) : List Char := path.rtakeWhile fun c => !isPathSeparator c

/-- A path is cut at the last colon of its last name. -/
structure ColonCut (path before tail : List Char) : Prop where
  whole : path = before ++ ':' :: tail
  colon : ':' ∉ tail
  name : ∀ c ∈ tail, isPathSeparator c = false

theorem lastName_append (named : ∀ c ∈ tail, isPathSeparator c = false) :
    lastName (before ++ tail) = lastName before ++ tail := by
  have taken : ∀ c ∈ tail.reverse, (!isPathSeparator c) = true := by
    intro c mem
    rw [named c (List.mem_reverse.mp mem), Bool.not_false]
  rw [lastName, List.rtakeWhile, List.reverse_append, List.takeWhile_append_of_pos taken,
    List.reverse_append, List.reverse_reverse]
  rfl

theorem ColonCut.colon_mem (cut : ColonCut path before tail) : ':' ∈ lastName path := by
  have named : ∀ c ∈ ':' :: tail, isPathSeparator c = false :=
    List.forall_mem_cons.mpr ⟨rfl, cut.name⟩
  rw [cut.whole, lastName_append named]
  simp

theorem exists_colonCut (mem : ':' ∈ lastName path) :
    ∃ before tail, ColonCut path before tail := by
  cases cut : cutLast ':' (lastName path) with
  | none => exact absurd mem (cutLast_eq_none.mp cut)
  | some sides =>
    obtain ⟨a, b⟩ := sides
    obtain ⟨same, colon⟩ := cutLast_eq_some cut
    have whole : path = path.rdropWhile (fun c => !isPathSeparator c) ++ lastName path :=
      List.rdropWhile_append_rtakeWhile.symm
    rw [same, ← List.append_assoc] at whole
    refine ⟨_, b, whole, colon, ?_⟩
    intro c later
    have within : c ∈ lastName path := by simp [same, later]
    simpa using List.mem_rtakeWhile_imp within

theorem isPathSeparator_eq_false_iff :
    (∀ c ∈ tail, isPathSeparator c = false) ↔ '/' ∉ tail ∧ '\\' ∉ tail := by
  simp only [isPathSeparator, Bool.or_eq_false_iff, beq_eq_false_iff_ne, ne_eq]
  constructor
  · intro named
    exact ⟨fun mem => (named _ mem).1 rfl, fun mem => (named _ mem).2 rfl⟩
  · rintro ⟨slash, backslash⟩ c mem
    exact ⟨fun same => slash (same ▸ mem), fun same => backslash (same ▸ mem)⟩

theorem cutTag_eq_some_iff : cutTag path = some (before, tail) ↔ ColonCut path before tail := by
  unfold cutTag
  constructor
  · intro cut
    cases last : cutLast ':' path with
    | none =>
      rw [last] at cut
      cases cut
    | some sides =>
      obtain ⟨a, b⟩ := sides
      obtain ⟨whole, colon⟩ := cutLast_eq_some last
      simp only [last] at cut
      split at cut
      · cases cut
      rename_i free
      cases cut
      exact ⟨whole, colon, isPathSeparator_eq_false_iff.mpr (by simpa using free)⟩
  · rintro ⟨rfl, colon, named⟩
    rw [cutLast_append colon]
    simp [isPathSeparator_eq_false_iff.mp named]

theorem cutTag_eq_none (free : ':' ∉ lastName path) : cutTag path = none := by
  cases cut : cutTag path with
  | none => rfl
  | some sides => exact absurd (cutTag_eq_some_iff.mp cut).colon_mem free

/-! ### Reading what stands in front of a digest -/

theorem splitTag_of_colonCut (cut : ColonCut path before tail) :
    splitTag path = checkTag tail >>= fun _ => .ok (some (before, tail)) := by
  rw [splitTag, cutTag_eq_some_iff.mpr cut]
  rfl

/-- The name in front of a digest, without the tag that it ends with. -/
theorem split_digest_eq_ok_iff (wellFormed : Digest.WellFormed digest) :
    split (path ++ '@' :: digest.toList) = .ok (locator, selector) ↔
      selector = .digest digest ∧
        ∃ tagged, splitTag path = .ok tagged ∧ locator = (tagged.map Prod.fst).getD path := by
  obtain ⟨parts, validated⟩ := wellFormed.validates
  unfold split
  rw [cutLast_append wellFormed.at_notMem]
  simp only [String.ofList_toList, validated, bind_ok, bind_eq_ok_iff, blame_eq_ok_iff]
  constructor
  · rintro ⟨tagged, splits, same⟩
    cases tagged with
    | none =>
      cases same
      exact ⟨rfl, none, splits, rfl⟩
    | some sides =>
      cases same
      exact ⟨rfl, some sides, splits, rfl⟩
  · rintro ⟨rfl, tagged, splits, rfl⟩
    refine ⟨tagged, splits, ?_⟩
    cases tagged with
    | none => rfl
    | some sides => rfl

theorem parse_layout_eq_ok_iff :
    parse .layout s = .ok r ↔
      split (trim s.toList) = .ok (r.locator.toList, r.selector) ∧ r.locator.toList ≠ [] := by
  have nothing : ∀ sides, split [] ≠ .ok sides := by
    rintro ⟨locator, selector⟩ splits
    rcases of_split splits with ⟨tag, -, -, written⟩ | ⟨tag, digest, -, -, -, written⟩
    · simp at written
    · simp at written
  unfold parse
  simp only [when_bind_eq_ok_iff, bind_eq_ok_iff, Prod.exists, blame_eq_ok_iff, reduceCtorEq,
    false_implies, true_and, imp_false, List.isEmpty_iff]
  constructor
  · rintro ⟨-, locator, selector, splits, filled, same⟩
    cases same
    rw [String.toList_ofList]
    exact ⟨splits, filled⟩
  · rintro ⟨splits, filled⟩
    refine ⟨?_, _, _, splits, filled, ?_⟩
    · intro empty
      rw [empty] at splits
      exact nothing _ splits
    · rw [String.ofList_toList]
      rfl

section Printed

variable (parsed : parse .layout s = .ok r)
include parsed

theorem text_eq_of_tag {tag : String} (tagged : r.selector = .tag tag) :
    r.text.toList = trim s.toList := by
  obtain ⟨splits, -⟩ := parse_layout_eq_ok_iff.mp parsed
  rcases of_split splits with ⟨name, same, -, written⟩ | ⟨name, digest, same, -⟩
  · rw [same] at tagged
    simp [text, same, written]
  · rw [tagged] at same
    cases same

/-- No blank is lost when the tag or the digest of a reference gives way to a digest. -/
theorem trim_text_withDigest (wellFormed : Digest.WellFormed digest) :
    trim (r.withDigest digest).text.toList = r.locator.toList ++ '@' :: digest.toList := by
  obtain ⟨splits, filled⟩ := parse_layout_eq_ok_iff.mp parsed
  have written : ∃ rest, trim s.toList = r.locator.toList ++ rest := by
    rcases of_split splits with ⟨_, -, -, written⟩ | ⟨tag, name, -, -, -, written⟩
    · exact ⟨_, written⟩
    · exact ⟨_, written.trans (List.append_assoc ..)⟩
  obtain ⟨rest, written⟩ := written
  have solid : ∀ c ∈ '@' :: digest.toList, isBlank c = false := by
    rw [List.forall_mem_cons]
    exact ⟨by decide, fun c mem => isBlank_of_isPathCharacter (wellFormed.plainPart.chars c mem)⟩
  have bare := (written ▸ bare_trim s.toList).append filled (List.cons_ne_nil _ _) solid
  have printed : (r.withDigest digest).text.toList = r.locator.toList ++ '@' :: digest.toList := by
    simp [text, withDigest]
  rw [printed, bare.trim_eq]

theorem parse_withDigest_iff (wellFormed : Digest.WellFormed digest) :
    parse .layout (r.withDigest digest).text = .ok r' ↔
      r'.selector = .digest digest ∧ r'.locator.toList ≠ [] ∧
        ∃ tagged, splitTag r.locator.toList = .ok tagged ∧
          r'.locator.toList = (tagged.map Prod.fst).getD r.locator.toList := by
  rw [parse_layout_eq_ok_iff, trim_text_withDigest parsed wellFormed,
    split_digest_eq_ok_iff wellFormed, and_assoc, and_congr_right_iff]
  exact fun _ => and_comm

theorem parse_withDigest_of_colonFree (free : ':' ∉ lastName r.locator.toList)
    (wellFormed : Digest.WellFormed digest) :
    parse .layout (r.withDigest digest).text = .ok (r.withDigest digest) := by
  have untagged : splitTag r.locator.toList = .ok none := by rw [splitTag, cutTag_eq_none free]
  have filled := (parse_layout_eq_ok_iff.mp parsed).2
  exact (parse_withDigest_iff parsed wellFormed).mpr ⟨rfl, filled, none, untagged, rfl⟩

theorem parse_withDigest_of_colonCut (cut : ColonCut r.locator.toList before tail)
    (wellFormed : Digest.WellFormed digest) :
    parse .layout (r.withDigest digest).text = .ok r' ↔
      IsTag tail ∧ before ≠ [] ∧ r' = ⟨String.ofList before, .digest digest⟩ := by
  rw [parse_withDigest_iff parsed wellFormed, splitTag_of_colonCut cut]
  simp only [seq_eq_ok_iff, checkTag_eq_ok_iff]
  constructor
  · rintro ⟨selected, filled, tagged, ⟨tag, same⟩, located⟩
    cases same
    obtain ⟨locator, selector⟩ := r'
    simp only [Option.map_some, Option.getD_some] at selected located
    subst selected located
    exact ⟨tag, filled, by rw [String.ofList_toList]⟩
  · rintro ⟨tag, filled, rfl⟩
    refine ⟨rfl, ?_, some (before, tail), ⟨tag, rfl⟩, ?_⟩
    · rwa [String.toList_ofList]
    · exact String.toList_ofList

end Printed

/-- What is printed of a layout reference by tag is read as the same reference. What is printed of
it with a digest is so too, if the last name of the path holds no colon. If it does, what is behind
the last colon is dropped as a tag, and refused where it is none or where no path is left. -/
theorem layout_round_trip {s : String} {r : Reference} (parsed : parse .layout s = .ok r) :
    (∀ tag, r.selector = .tag tag → parse .layout r.text = .ok r) ∧
      (':' ∉ lastName r.locator.toList →
        parse .layout r.text = .ok r ∧ ∀ digest, Digest.WellFormed digest →
          parse .layout (r.withDigest digest).text = .ok (r.withDigest digest)) ∧
      (':' ∈ lastName r.locator.toList →
        ∃ before tail, ColonCut r.locator.toList before tail ∧
          ∀ digest, Digest.WellFormed digest → ∀ r' : Reference,
            parse .layout (r.withDigest digest).text = .ok r' ↔
              IsTag tail ∧ before ≠ [] ∧ r' = ⟨String.ofList before, .digest digest⟩) := by
  have byTag : ∀ tag, r.selector = .tag tag → parse .layout r.text = .ok r := by
    intro tag tagged
    rw [parse_layout_eq_ok_iff, text_eq_of_tag parsed tagged, trim_trim]
    exact parse_layout_eq_ok_iff.mp parsed
  refine ⟨byTag, ?_, ?_⟩
  · intro free
    refine ⟨?_, fun digest wellFormed => parse_withDigest_of_colonFree parsed free wellFormed⟩
    cases selected : r.selector with
    | tag tag => exact byTag tag selected
    | digest digest =>
      have wellFormed := (of_parse_digest parsed selected).1
      have same : r.withDigest digest = r := by rw [withDigest, ← selected]
      rw [← same]
      exact parse_withDigest_of_colonFree parsed free wellFormed
  · intro mem
    obtain ⟨before, tail, cut⟩ := exists_colonCut mem
    refine ⟨before, tail, cut, fun digest wellFormed r' => ?_⟩
    exact parse_withDigest_of_colonCut parsed cut wellFormed

/-! A path with a blank and a drive, and a path whose last name holds a colon. -/

theorem layout_round_trip_drive :
    parse .layout " C:\\My Store:v1 " = .ok ⟨"C:\\My Store", .tag "v1"⟩ ∧
      parse .layout "C:\\My Store:v1" = .ok ⟨"C:\\My Store", .tag "v1"⟩ ∧
      parse .layout ("C:\\My Store@" ++ portedDigest 'a') =
        .ok ⟨"C:\\My Store", .digest (portedDigest 'a')⟩ := by
  have parsed : parse .layout " C:\\My Store:v1 " = .ok ⟨"C:\\My Store", .tag "v1"⟩ := by decide
  obtain ⟨byTag, kept, -⟩ := layout_round_trip parsed
  exact ⟨parsed, byTag "v1" rfl, (kept (by decide)).2 _ (portedDigest_wellFormed (by decide))⟩

def coloned : Reference := ⟨"store:a", .tag "v1"⟩

/-- A layout is found by a tag, and what is printed of it with a digest names another layout. -/
theorem colon_in_name_lost :
    parse .layout "store:a:v1" = .ok coloned ∧ Digest.WellFormed (portedDigest 'a') ∧
      parse .layout (coloned.withDigest (portedDigest 'a')).text =
        .ok ⟨"store", .digest (portedDigest 'a')⟩ ∧
      parse .layout (coloned.withDigest (portedDigest 'a')).text ≠
        .ok (coloned.withDigest (portedDigest 'a')) := by
  have wellFormed : Digest.WellFormed (portedDigest 'a') := portedDigest_wellFormed (by decide)
  have parsed : parse .layout "store:a:v1" = .ok coloned := by decide
  have cut : ColonCut coloned.locator.toList "store".toList "a".toList :=
    ⟨rfl, by decide, by simp [isPathSeparator]⟩
  have reread : parse .layout (coloned.withDigest (portedDigest 'a')).text =
      .ok ⟨"store", .digest (portedDigest 'a')⟩ :=
    (parse_withDigest_of_colonCut parsed cut wellFormed).mpr
      ⟨checkTag_eq_ok_iff.mp rfl, by decide, rfl⟩
  refine ⟨parsed, wellFormed, reread, ?_⟩
  rw [reread]
  intro same
  have located : "store" = "store:a" := congrArg Reference.locator (Except.ok.inj same)
  exact absurd located (by decide)

end ArtifactTrust.Reference
