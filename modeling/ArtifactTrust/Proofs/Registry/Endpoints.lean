import ArtifactTrust.Proofs.Reference
import ArtifactTrust.Proofs.Registry.Exchanges
import ArtifactTrust.Proofs.Url.Path
import ArtifactTrust.Registry.Repository

/-!
# The places of a repository

A tag, a well-formed digest or the tag made of one is a plain part of a path, so a request for it
stays in the repository. Other names may lead out of it.
-/

namespace ArtifactTrust

set_option autoImplicit false

open Text Registry Url

/-! ### Names -/

theorem plainPart_of_rules {part : List Char}
    (rules : (∃ c rest, part = c :: rest ∧ Reference.isTagStart c = true) ∧
      ∀ d ∈ part, Reference.isTagRest d = true) : PlainPart part :=
  ⟨rules.1, fun d mem => by simp [isPathCharacter, rules.2 d mem]⟩

theorem Reference.plainPart_of_checkTag {tag : List Char}
    (checked : Reference.checkTag tag = .ok ()) : PlainPart tag :=
  plainPart_of_rules (Reference.of_checkTag checked)

theorem Reference.plainPart_of_checkComponent {component : List Char}
    (checked : Reference.checkComponent component = .ok ()) : PlainPart component :=
  plainPart_of_rules (Reference.of_checkComponent checked)

theorem Digest.isTagRest_of_isLowerHex {c : Char} (h : isLowerHex c = true) :
    Reference.isTagRest c = true := by
  have ascii : c.toNat < 128 := by
    simp only [isLowerHex, Bool.or_eq_true, Bool.and_eq_true, decide_eq_true_eq] at h
    omega
  exact forall_ascii (p := fun c => isLowerHex c = true → Reference.isTagRest c = true)
    (by decide +kernel) ascii h

theorem Digest.plainPart_joined {algorithm : Digest.Algorithm} {encoded : List Char} {sep : Char}
    (hex : ∀ c ∈ encoded, isLowerHex c = true) (between : isPathCharacter sep = true) :
    PlainPart (algorithm.name.toList ++ sep :: encoded) := by
  have name : PlainPart algorithm.name.toList := by
    cases algorithm with
    | sha256 => exact .of_all (by decide) (by decide)
    | sha512 => exact .of_all (by decide) (by decide)
  obtain ⟨c, rest, same, start⟩ := name.start
  refine ⟨⟨c, rest ++ sep :: encoded, by rw [same, List.cons_append], start⟩, ?_⟩
  intro d mem
  rcases List.mem_append.mp mem with mem | mem
  · exact name.chars d mem
  rcases List.mem_cons.mp mem with rfl | mem
  · exact between
  · simp [isPathCharacter, Digest.isTagRest_of_isLowerHex (hex d mem)]

theorem Digest.WellFormed.plainPart {digest : String} (h : Digest.WellFormed digest) :
    PlainPart digest.toList := by
  obtain ⟨⟨algorithm, encoded⟩, parsed⟩ := h
  obtain ⟨rfl, -, hex⟩ := Digest.parse_eq_ok_iff.mp parsed
  have part : PlainPart (algorithm.name.toList ++ ':' :: encoded.toList) :=
    Digest.plainPart_joined (List.all_eq_true.mp hex) (by decide)
  simpa using part

theorem RemoteRepository.referrersTag_of_parse {digest encoded : String}
    {algorithm : Digest.Algorithm} (parsed : Digest.parse digest = .ok (algorithm, encoded)) :
    referrersTag digest = algorithm.name ++ "-" ++ encoded := by
  obtain ⟨rfl, -⟩ := Digest.parse_eq_ok_iff.mp parsed
  unfold referrersTag
  rw [Digest.cutFirst?_digest]

theorem Digest.WellFormed.plainPart_referrersTag {digest : String} (h : Digest.WellFormed digest) :
    PlainPart (RemoteRepository.referrersTag digest).toList := by
  obtain ⟨⟨algorithm, encoded⟩, parsed⟩ := h
  obtain ⟨-, -, hex⟩ := Digest.parse_eq_ok_iff.mp parsed
  have part : PlainPart (algorithm.name.toList ++ '-' :: encoded.toList) :=
    Digest.plainPart_joined (List.all_eq_true.mp hex) (by decide)
  rw [RemoteRepository.referrersTag_of_parse parsed]
  simpa using part

/-! ### Where a repository is -/

/-- The parts that a repository's base and name are put together from. -/
structure RemoteRepository.Located (r : RemoteRepository) (repository : String)
    (host : List Char) (components : List (List Char)) : Prop where
  served : HostText host
  hosted : host ≠ []
  plain : ∀ c ∈ components, PlainPart c
  nonempty : components ≠ []
  named : repository = String.ofList (joined '/' components)
  base : r.base = schemeText (!r.settings.plain) ++ String.ofList host ++ "/v2/" ++ repository

theorem RemoteRepository.located_of_open {artifact : Reference} {settings : RegistrySettings}
    {r : RemoteRepository} {text : String}
    (parsed : Reference.parse .registry text = .ok artifact)
    (opened : RemoteRepository.open? artifact.registry artifact.repository settings = .ok r) :
    ∃ host components, r.Located artifact.repository host components := by
  obtain ⟨host, components, cut, hosted, allowed, nonempty, accepted⟩ :=
    Reference.of_checkRegistryLocator (Reference.checkRegistryLocator_of_parse parsed)
  have cut' : cutFirst? '/' artifact.locator =
      some (String.ofList host, String.ofList (joined '/' components)) := by
    unfold cutFirst?
    rw [cut]
    rfl
  have registry : artifact.registry = String.ofList host := by
    unfold Reference.registry
    rw [cut']
  have repository : artifact.repository = String.ofList (joined '/' components) := by
    unfold Reference.repository
    rw [cut']
  unfold RemoteRepository.open? at opened
  simp only at opened
  split at opened
  · cases opened
    refine ⟨host, components, ?_⟩
    exact {
      served := allowed
      hosted := hosted
      plain := fun c mem => Reference.plainPart_of_checkComponent (accepted c mem)
      nonempty := nonempty
      named := repository
      base := by rw [registry] }
  · cases opened

namespace RemoteRepository.Located

variable {r : RemoteRepository} {repository : String} {host : List Char}
  {components : List (List Char)} {kind name : String} {q : Request}

def parts (components : List (List Char)) (kind name : String) : List (List Char) :=
  "v2".toList :: (components ++ [kind.toList, name.toList])

theorem plain_parts (located : r.Located repository host components)
    (hk : PlainPart kind.toList) (hn : PlainPart name.toList) :
    ∀ p ∈ parts components kind name, PlainPart p := by
  intro p mem
  rcases List.mem_cons.mp mem with rfl | mem
  · exact .of_all (by decide) (by decide)
  rcases List.mem_append.mp mem with mem | mem
  · exact located.plain p mem
  rcases List.mem_cons.mp mem with rfl | mem
  · exact hk
  · rw [List.mem_singleton.mp mem]
    exact hn

theorem joined_parts (located : r.Located repository host components) :
    "/" ++ String.ofList (joined '/' (parts components kind name)) =
      "/v2/" ++ repository ++ "/" ++ kind ++ "/" ++ name := by
  have behind : joined '/' (components ++ [kind.toList, name.toList]) =
      joined '/' components ++ '/' :: (kind.toList ++ '/' :: name.toList) :=
    joined_append located.nonempty (List.cons_ne_nil _ _)
  have whole : joined '/' (parts components kind name) =
      "v2".toList ++ '/' :: joined '/' (components ++ [kind.toList, name.toList]) :=
    joined_append (List.cons_ne_nil "v2".toList []) (by simp)
  apply String.toList_inj.mp
  rw [whole, behind, located.named]
  simp

theorem url_eq_written (located : r.Located repository host components) :
    r.base ++ "/" ++ kind ++ "/" ++ name =
      String.ofList (written (!r.settings.plain) host (parts components kind name) none) := by
  have path : ("/" ++ String.ofList (joined '/' (parts components kind name))).toList =
      ("/v2/" ++ repository ++ "/" ++ kind ++ "/" ++ name).toList :=
    congrArg String.toList located.joined_parts
  have chars : '/' :: joined '/' (parts components kind name) = "/v2/".toList ++
      (repository.toList ++ ("/".toList ++ (kind.toList ++ ("/".toList ++ name.toList)))) := by
    simpa using path
  apply String.toList_inj.mp
  rw [located.base]
  simp only [written, tailOf, String.toList_append, String.toList_ofList, List.append_nil,
    List.append_assoc, chars]

theorem queryText_none : QueryText none := fun q h => by cases h

theorem of_parse_url (located : r.Located repository host components)
    (hk : PlainPart kind.toList) (hn : PlainPart name.toList) {url : Url}
    (parsed : Url.parse (r.base ++ "/" ++ kind ++ "/" ++ name) = .ok url) :
    url.segments = (parts components kind name).map String.ofList ∧
      url.secure = !r.settings.plain ∧ url.userText = "" ∧ HostText url.authority.toList ∧
      url.authority.toList ≠ [] ∧ url.query = none ∧ url.fragment = none := by
  rw [located.url_eq_written] at parsed
  exact of_parse_written located.served located.hosted (located.plain_parts hk hn)
    (List.cons_ne_nil _ _) queryText_none parsed

theorem path_of_segments (located : r.Located repository host components) {url : Url}
    (segments : url.segments = (parts components kind name).map String.ofList) :
    url.path = "/v2/" ++ repository ++ "/" ++ kind ++ "/" ++ name := by
  rw [path_eq segments (List.cons_ne_nil _ _), located.joined_parts]

theorem path_of_aimed (located : r.Located repository host components)
    (hk : PlainPart kind.toList) (hn : PlainPart name.toList)
    (aimed : Aimed (r.base ++ "/" ++ kind ++ "/" ++ name) q) :
    q.url.path = "/v2/" ++ repository ++ "/" ++ kind ++ "/" ++ name := by
  obtain ⟨url, parsed, same⟩ := aimed.path
  obtain ⟨segments, -⟩ := located.of_parse_url hk hn parsed
  rw [same, located.path_of_segments segments]

theorem manifestUrl_eq (r : RemoteRepository) (name : String) :
    r.manifestUrl name = r.base ++ "/" ++ "manifests" ++ "/" ++ name := by
  apply String.toList_inj.mp
  simp [manifestUrl]

theorem blobUrl_eq (r : RemoteRepository) (digest : String) :
    r.blobUrl digest = r.base ++ "/" ++ "blobs" ++ "/" ++ digest := by
  apply String.toList_inj.mp
  simp [blobUrl]

def parameter : String :=
  String.ofList (percentEncode formEscapes "artifactType".toList) ++ "=" ++
    String.ofList (percentEncode formEscapes MediaType.signature.toList)

theorem queryText_parameter : QueryText (some parameter.toList) := by
  have chars : parameter.toList.all (fun c => !isEdge c && !isBreak c && c != '#') = true := by
    decide +kernel
  intro q same
  cases same
  simpa [and_assoc] using chars

/-- The referrers of a digest are asked for with a parameter, which changes nothing of the path:
the URL that is read once more is written in the same parts. -/
theorem path_of_aimed_referrers (located : r.Located repository host components)
    {digest text : String} (hn : PlainPart digest.toList)
    (asked : r.referrersUrl digest = .ok text) (aimed : Aimed text q) :
    q.url.path = "/v2/" ++ repository ++ "/referrers/" ++ digest := by
  have spliced : r.base ++ "/referrers/" ++ digest = r.base ++ "/" ++ "referrers" ++ "/" ++ digest := by
    apply String.toList_inj.mp
    simp
  have hk : PlainPart "referrers".toList := .of_all (by decide) (by decide)
  unfold referrersUrl at asked
  rw [spliced] at asked
  cases parsed : Url.parse (r.base ++ "/" ++ "referrers" ++ "/" ++ digest) with
  | error fault =>
    rw [parsed] at asked
    cases asked
  | ok url =>
    obtain ⟨segments, secure, anonymous, served, hosted, unasked, unmarked⟩ :=
      located.of_parse_url hk hn parsed
    simp only [parsed, Except.ok.injEq] at asked
    have withQuery : (url.withParameter "artifactType" MediaType.signature).query =
        some parameter := by
      unfold Url.withParameter
      rw [unasked]
      rfl
    have written := text_eq_written (u := url.withParameter "artifactType" MediaType.signature)
      segments (List.cons_ne_nil _ _) anonymous unmarked
    rw [withQuery] at written
    obtain ⟨again, reparsed, same⟩ := aimed.path
    rw [← asked, written] at reparsed
    obtain ⟨kept, -⟩ := of_parse_written served hosted (located.plain_parts hk hn)
      (List.cons_ne_nil _ _) queryText_parameter reparsed
    have joined : "/v2/" ++ repository ++ "/" ++ "referrers" ++ "/" ++ digest =
        "/v2/" ++ repository ++ "/referrers/" ++ digest := by
      apply String.toList_inj.mp
      simp
    rw [same, located.path_of_segments kept, joined]

end RemoteRepository.Located

end ArtifactTrust
