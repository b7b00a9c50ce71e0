import ArtifactTrust.Proofs.Url.Host

/-!
# The path of a URL

A URL that is put together from a host and plain parts of a path is read back as it was put
together.
-/

namespace ArtifactTrust.Url

set_option autoImplicit false

open Text

/-- A character that stands for itself in a path and separates nothing. -/
def isPathCharacter (c : Char) : Bool := Reference.isTagRest c || c == ':'

/-- A part of a path that stands for itself: it starts with a letter, a digit or an underscore, so
it is neither of the two parts that point elsewhere. -/
structure PlainPart (part : List Char) : Prop where
  start : ∃ c rest, part = c :: rest ∧ Reference.isTagStart c = true
  chars : ∀ c ∈ part, isPathCharacter c = true

/-! ### Characters -/

theorem isHostCharacter_or_underscore {c : Char} (h : isPathCharacter c = true) :
    Reference.isHostCharacter c = true ∨ c = '_' := by
  simp only [isPathCharacter, Reference.isTagRest, Reference.isTagStart,
    Reference.isHostCharacter, Bool.or_eq_true, beq_iff_eq] at h ⊢
  rcases h with (((h | h) | h) | h) | h <;> simp [h]

theorem toNat_lt_of_isPathCharacter {c : Char} (h : isPathCharacter c = true) :
    c.toNat < 128 := by
  rcases isHostCharacter_or_underscore h with host | rfl
  · exact toNat_lt_of_isHostCharacter host
  · decide

theorem plain_of_isPathCharacter {c : Char} (h : isPathCharacter c = true) :
    pathEscapes c = false ∧ isSlash c = false ∧ isEdge c = false ∧ isBreak c = false ∧
      c ≠ '?' ∧ c ≠ '#' :=
  forall_ascii (p := fun c => isPathCharacter c = true →
    pathEscapes c = false ∧ isSlash c = false ∧ isEdge c = false ∧ isBreak c = false ∧
      c ≠ '?' ∧ c ≠ '#') (by decide +kernel) (toNat_lt_of_isPathCharacter h) h

theorem toLower_of_isTagStart {c : Char} (h : Reference.isTagStart c = true) :
    c.toLower ≠ '.' ∧ c.toLower ≠ '%' := by
  have path : isPathCharacter c = true := by
    simp [isPathCharacter, Reference.isTagRest, h]
  exact forall_ascii (p := fun c => Reference.isTagStart c = true →
    c.toLower ≠ '.' ∧ c.toLower ≠ '%') (by decide +kernel) (toNat_lt_of_isPathCharacter path) h

/-! ### Parts -/

namespace PlainPart

variable {part : List Char}

theorem of_all (start : part.head?.any Reference.isTagStart = true)
    (chars : part.all isPathCharacter = true) : PlainPart part := by
  cases part with
  | nil => cases start
  | cons c rest => exact ⟨⟨c, rest, rfl, start⟩, List.all_eq_true.mp chars⟩

theorem segment_eq (plain : PlainPart part) : segment part = String.ofList part := by
  have kept : percentEncode pathEscapes part = part := by
    unfold percentEncode
    have chars := plain.chars
    clear plain
    induction part with
    | nil => rfl
    | cons c rest ih =>
      have first := (plain_of_isPathCharacter (chars c List.mem_cons_self)).1
      rw [List.flatMap_cons, ih fun d mem => chars d (List.mem_cons_of_mem c mem)]
      simp [first]
  unfold segment
  rw [kept]

theorem not_dots (plain : PlainPart part) {dots : List String}
    (dotted : ∀ d ∈ dots, d.toList.head? = some '.' ∨ d.toList.head? = some '%') :
    String.ofList (part.map Char.toLower) ∉ dots := by
  intro mem
  obtain ⟨c, rest, rfl, start⟩ := plain.start
  obtain ⟨dot, percent⟩ := toLower_of_isTagStart start
  have head := dotted _ mem
  simp only [List.map_cons, String.toList_ofList, List.head?_cons, Option.some.injEq] at head
  rcases head with h | h
  · exact dot h
  · exact percent h

theorem not_isParent (plain : PlainPart part) : isParent part = false :=
  decide_eq_false (plain.not_dots (by decide))

theorem not_isHere (plain : PlainPart part) : isHere part = false :=
  decide_eq_false (plain.not_dots (by decide))

end PlainPart

theorem resolve_of_plain {parts : List (List Char)} (plain : ∀ p ∈ parts, PlainPart p)
    (some : parts ≠ []) (done : List String) :
    resolve done parts = done.reverse ++ parts.map String.ofList := by
  induction parts generalizing done with
  | nil => exact absurd rfl some
  | cons part rest ih =>
    have first := plain part List.mem_cons_self
    cases rest with
    | nil =>
      simp [resolve, first.not_isParent, first.not_isHere, first.segment_eq]
    | cons next others =>
      rw [resolve]
      · simp only [first.not_isParent, first.not_isHere, first.segment_eq, Bool.false_eq_true,
          if_false]
        rw [ih (fun p mem => plain p (List.mem_cons_of_mem part mem)) (by simp)]
        simp
      · simp

/-! ### Whole URLs -/

theorem cleaned_eq {cs : List Char}
    (kept : ∀ c ∈ cs, isEdge c = false ∧ isBreak c = false) : cleaned (String.ofList cs) = cs := by
  have left {ds : List Char} (inner : ∀ d ∈ ds, isEdge d = false) : ds.dropWhile isEdge = ds := by
    cases ds with
    | nil => rfl
    | cons d rest => simp [inner d List.mem_cons_self]
  unfold cleaned
  simp only [String.toList_ofList]
  rw [left fun c mem => (kept c mem).1, left fun c mem => (kept c (List.mem_reverse.mp mem)).1,
    List.reverse_reverse]
  exact List.filter_eq_self.mpr fun c mem => by simp [(kept c mem).2]

theorem scheme?_schemeText (secure : Bool) (rest : List Char) :
    scheme? ((schemeText secure).toList ++ rest) = some (secure, '/' :: '/' :: rest) := by
  cases secure with
  | false =>
    have cut : cutFirst ':' ("http".toList ++ ':' :: '/' :: '/' :: rest) =
        some ("http".toList, '/' :: '/' :: rest) := cutFirst_append (by decide)
    change scheme? ("http".toList ++ ':' :: '/' :: '/' :: rest) = _
    unfold scheme?
    rw [cut]
    rfl
  | true =>
    have cut : cutFirst ':' ("https".toList ++ ':' :: '/' :: '/' :: rest) =
        some ("https".toList, '/' :: '/' :: rest) := cutFirst_append (by decide)
    change scheme? ("https".toList ++ ':' :: '/' :: '/' :: rest) = _
    unfold scheme?
    rw [cut]
    rfl

def tailOf : Option (List Char) → List Char
  | some query => '?' :: query
  | none => []

/-- A URL that is put together from a server, parts of a path and perhaps a query. -/
def written (secure : Bool) (server : List Char) (parts : List (List Char))
    (query : Option (List Char)) : List Char :=
  (schemeText secure).toList ++ (server ++ '/' :: (joined '/' parts ++ tailOf query))

/-- A query of characters that end no part of a URL and are not dropped. -/
def QueryText (query : Option (List Char)) : Prop :=
  ∀ q, query = some q → ∀ c ∈ q, isEdge c = false ∧ isBreak c = false ∧ c ≠ '#'

theorem plain_of_mem_joined {parts : List (List Char)} (plain : ∀ p ∈ parts, PlainPart p)
    {c : Char} (mem : c ∈ joined '/' parts) :
    isEdge c = false ∧ isBreak c = false ∧ c ≠ '\\' ∧ c ≠ '?' ∧ c ≠ '#' := by
  rcases mem_joined mem with rfl | ⟨p, listed, hc⟩
  · decide
  · obtain ⟨-, slash, edge, break', question, hash⟩ :=
      plain_of_isPathCharacter ((plain p listed).chars c hc)
    refine ⟨edge, break', ?_, question, hash⟩
    rintro rfl
    cases slash

theorem cutTail_of_plain {path : List Char} {query : Option (List Char)}
    (plain : ∀ c ∈ path, c ≠ '?' ∧ c ≠ '#') (queried : QueryText query) :
    cutTail (path ++ tailOf query) = (path, query, none) := by
  have unmarked : '#' ∉ path ++ tailOf query := by
    intro mem
    rcases List.mem_append.mp mem with mem | mem
    · exact (plain _ mem).2 rfl
    cases query with
    | none => cases mem
    | some q =>
      rcases List.mem_cons.mp mem with same | mem
      · exact absurd same (by decide)
      · exact (queried q rfl _ mem).2.2 rfl
  have unqueried : '?' ∉ path := fun mem => (plain _ mem).1 rfl
  unfold cutTail
  rw [cutFirst_eq_none.mpr unmarked]
  cases query with
  | none =>
    simp only [tailOf, List.append_nil]
    rw [cutFirst_eq_none.mpr unqueried]
  | some q =>
    simp only [tailOf]
    rw [cutFirst_append unqueried]

theorem pathParts_joined {parts : List (List Char)} (plain : ∀ p ∈ parts, PlainPart p)
    (some : parts ≠ []) : pathParts (joined '/' parts) = parts := by
  have same : (joined '/' parts).map (fun c => if c = '\\' then '/' else c) =
      joined '/' parts := by
    refine (List.map_congr_left fun c mem => ?_).trans (List.map_id _)
    exact if_neg (plain_of_mem_joined plain mem).2.2.1
  have free : ∀ p ∈ parts, '/' ∉ p := by
    intro p listed mem
    have slash := (plain_of_isPathCharacter ((plain p listed).chars _ mem)).2.1
    cases slash
  unfold pathParts
  rw [same, pieces_joined free some]

variable {secure : Bool} {server : List Char} {parts : List (List Char)}
  {query : Option (List Char)}

theorem ofAuthority_of_plain (served : HostText server) (plain : ∀ p ∈ parts, PlainPart p)
    (some : parts ≠ []) (queried : QueryText query) :
    ofAuthority secure (server ++ '/' :: (joined '/' parts ++ tailOf query)) = (do
      let host ← normalHost (cutHost false server).1
      let port ← portOf secure (cutHost false server).2
      return ⟨secure, "", "", host, port, parts.map String.ofList, query.map queryText, none⟩) := by
  have authority : (server ++ '/' :: (joined '/' parts ++ tailOf query)).takeWhile
      (!endsAuthority ·) = server := by
    rw [List.takeWhile_append_of_pos]
    · simp [endsAuthority, isSlash]
    · intro c mem
      simp [(not_ends_of_isHostCharacter (served c mem)).1]
  have anonymous : cutLast '@' server = none :=
    cutLast_eq_none.mpr fun mem => (not_ends_of_isHostCharacter (served _ mem)).2.2.2.1 rfl
  have path : ∀ c ∈ '/' :: joined '/' parts, c ≠ '?' ∧ c ≠ '#' := by
    intro c mem
    rcases List.mem_cons.mp mem with rfl | mem
    · decide
    · exact (plain_of_mem_joined plain mem).2.2.2
  have tail : cutTail ('/' :: (joined '/' parts ++ tailOf query)) =
      ('/' :: joined '/' parts, query, none) := cutTail_of_plain path queried
  unfold ofAuthority
  simp only [authority, List.drop_left, anonymous, Option.getD_none, tail, List.drop_one,
    List.tail_cons, pathParts_joined plain some, resolve_of_plain plain some]
  rfl

theorem kept_of_mem_written (served : HostText server) (plain : ∀ p ∈ parts, PlainPart p)
    (queried : QueryText query) {c : Char} (mem : c ∈ written secure server parts query) :
    isEdge c = false ∧ isBreak c = false := by
  have scheme : ∀ c ∈ (schemeText secure).toList, isEdge c = false ∧ isBreak c = false := by
    have marks : (schemeText secure).toList.all (fun c => !isEdge c && !isBreak c) = true := by
      cases secure <;> decide
    simpa using marks
  unfold written at mem
  rcases List.mem_append.mp mem with mem | mem
  · exact scheme c mem
  rcases List.mem_append.mp mem with mem | mem
  · obtain ⟨-, edge, break', -⟩ := not_ends_of_isHostCharacter (served c mem)
    exact ⟨edge, break'⟩
  rcases List.mem_cons.mp mem with rfl | mem
  · decide
  rcases List.mem_append.mp mem with mem | mem
  · obtain ⟨edge, break', -⟩ := plain_of_mem_joined plain mem
    exact ⟨edge, break'⟩
  cases query with
  | none => cases mem
  | some q =>
    rcases List.mem_cons.mp mem with rfl | mem
    · decide
    · obtain ⟨edge, break', -⟩ := queried q rfl c mem
      exact ⟨edge, break'⟩

theorem parse_written (served : HostText server) (hosted : server ≠ [])
    (plain : ∀ p ∈ parts, PlainPart p) (some : parts ≠ []) (queried : QueryText query) :
    parse (String.ofList (written secure server parts query)) = (do
      let host ← normalHost (cutHost false server).1
      let port ← portOf secure (cutHost false server).2
      return ⟨secure, "", "", host, port, parts.map String.ofList, query.map queryText, none⟩) := by
  have slashes (rest : List Char) :
      ('/' :: '/' :: (server ++ rest)).dropWhile isSlash = server ++ rest := by
    cases server with
    | nil => exact absurd rfl hosted
    | cons c others =>
      have ends := (not_ends_of_isHostCharacter (served c List.mem_cons_self)).1
      have inner : isSlash c = false := by
        unfold endsAuthority at ends
        simp only [Bool.or_eq_false_iff] at ends
        exact ends.1.1
      have slash : isSlash '/' = true := by decide
      simp [slash, inner]
  unfold parse
  rw [cleaned_eq fun c mem => kept_of_mem_written served plain queried mem]
  unfold written
  rw [scheme?_schemeText]
  simp only [slashes]
  exact ofAuthority_of_plain served plain some queried

/-! ### The path of what is read -/

theorem cutHost_append (inBrackets : Bool) (cs : List Char) :
    (cutHost inBrackets cs).1 ++ (cutHost inBrackets cs).2 = cs := by
  induction cs generalizing inBrackets with
  | nil => rfl
  | cons c rest ih =>
    rw [cutHost]
    split
    · rfl
    · exact congrArg (c :: ·) (ih _)

theorem join_slashed {parts : List (List Char)} (some : parts ≠ []) :
    String.join ((parts.map String.ofList).map ("/" ++ ·)) =
      "/" ++ String.ofList (joined '/' parts) := by
  induction parts with
  | nil => exact absurd rfl some
  | cons part rest ih =>
    cases rest with
    | nil => simp [joined]
    | cons next others =>
      rw [List.map_cons, List.map_cons, String.join_cons, ih (List.cons_ne_nil next others)]
      apply String.toList_inj.mp
      simp [joined]

theorem path_eq {u : Url} (segments : u.segments = parts.map String.ofList) (some : parts ≠ []) :
    u.path = "/" ++ String.ofList (joined '/' parts) := by
  unfold path
  rw [segments, join_slashed some]

theorem text_eq_written {u : Url} (segments : u.segments = parts.map String.ofList)
    (some : parts ≠ []) (anonymous : u.userText = "") (unmarked : u.fragment = none) :
    u.text = String.ofList
      (written u.secure u.authority.toList parts (u.query.map String.toList)) := by
  apply String.toList_inj.mp
  unfold text location
  rw [path_eq segments some, anonymous, unmarked, String.toList_ofList]
  unfold written
  cases u.query with
  | none => simp [tailOf]
  | some query => simp [tailOf]

/-- What is read back of a URL that is put together: its path is the one of its parts, and its
server is again written in the characters of a host. -/
theorem of_parse_written {u : Url} (served : HostText server) (hosted : server ≠ [])
    (plain : ∀ p ∈ parts, PlainPart p) (some : parts ≠ []) (queried : QueryText query)
    (parsed : parse (String.ofList (written secure server parts query)) = .ok u) :
    u.segments = parts.map String.ofList ∧ u.secure = secure ∧ u.userText = "" ∧
      HostText u.authority.toList ∧ u.authority.toList ≠ [] ∧ u.query = query.map queryText ∧
      u.fragment = none := by
  rw [parse_written served hosted plain some queried] at parsed
  obtain ⟨host, normal, parsed⟩ := bind_eq_ok_iff.mp parsed
  obtain ⟨port, -, parsed⟩ := bind_eq_ok_iff.mp parsed
  cases parsed
  have given : HostText (cutHost false server).1 := by
    refine served.mono ?_
    have whole := cutHost_append false server
    intro c mem
    rw [← whole]
    exact List.mem_append_left _ mem
  obtain ⟨nonempty, chars⟩ := hostText_of_normalHost given normal
  have colon : HostText ":".toList := .cons (by decide) .nil
  refine ⟨rfl, rfl, rfl, ?_, ?_, rfl, rfl⟩
  · unfold authority
    rw [String.toList_append]
    cases port with
    | none => simpa using chars
    | some n =>
      simp only [String.toList_append]
      exact chars.append (colon.append (hostText_toString n))
  · unfold authority
    rw [String.toList_append]
    exact fun empty => nonempty (List.append_eq_nil_iff.mp empty).1

end ArtifactTrust.Url
