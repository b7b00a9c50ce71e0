import ArtifactTrust.Proofs.Command.Pinning
import ArtifactTrust.Proofs.Registry.Confinement

/-!
# Where the requests of a run go

The requests of a run stay within the repository of the artifact, up to those for a digest that the
registry has handed out and that is not well formed.
-/

namespace ArtifactTrust

set_option autoImplicit false

open Text Registry Url

variable {σ : Type}

/-- The paths in the repository of an artifact that a run about a subject may ask for. -/
inductive Endpoint (artifact : Reference) (subject : String) : String → Prop
  | tag {name : String} (named : artifact.selector = .tag name) :
      Endpoint artifact subject ("/v2/" ++ artifact.repository ++ "/manifests/" ++ name)
  | manifest {digest : String} (wellFormed : Digest.WellFormed digest) :
      Endpoint artifact subject ("/v2/" ++ artifact.repository ++ "/manifests/" ++ digest)
  | blob {digest : String} (wellFormed : Digest.WellFormed digest) :
      Endpoint artifact subject ("/v2/" ++ artifact.repository ++ "/blobs/" ++ digest)
  | referrers {digest : String} (wellFormed : Digest.WellFormed digest) :
      Endpoint artifact subject ("/v2/" ++ artifact.repository ++ "/referrers/" ++ digest)
  | referrersTag (wellFormed : Digest.WellFormed subject) :
      Endpoint artifact subject
        ("/v2/" ++ artifact.repository ++ "/manifests/" ++ RemoteRepository.referrersTag subject)

theorem Endpoint.starts {artifact : Reference} {subject path : String}
    (endpoint : Endpoint artifact subject path) :
    ("/v2/" ++ artifact.repository ++ "/").toList <+: path.toList := by
  cases endpoint <;> simp

/-- Requests for a digest that is not well formed, of a signature that the registry lists or of
the envelope that a manifest names. -/
inductive Stray (r : RemoteRepository) (network : Network (StateM σ)) (q : Request) : Prop
  | signature {subject d : Descriptor} {ds : List Descriptor} {s t : σ}
      (listed : answer (r.listSignatures network subject) s = (.ok ds, t)) (mem : d ∈ ds)
      (malformed : ¬ Digest.WellFormed d.digest) (aimed : Aimed (r.manifestUrl d.digest) q)
  | envelope {d layer : Descriptor} {m : Manifest} {s t : σ}
      (fetched : answer (r.fetchManifest network d) s = (.ok m, t))
      (found : m.envelope? = some layer) (malformed : ¬ Digest.WellFormed layer.digest)
      (aimed : Aimed (r.blobUrl layer.digest) q)

@[simp] theorem RemoteRepository.repository_resolve (r : RemoteRepository)
    (network : Network (StateM σ)) : (r.repository network).resolve = r.resolve network := rfl

section Located

variable {artifact : Reference} {r : RemoteRepository} {host : List Char}
  {components : List (List Char)} {q : Request} {subject name : String}

theorem path_of_manifest (located : r.Located artifact.repository host components)
    (plain : PlainPart name.toList) (aimed : Aimed (r.manifestUrl name) q) :
    q.url.path = "/v2/" ++ artifact.repository ++ "/manifests/" ++ name := by
  rw [RemoteRepository.Located.manifestUrl_eq] at aimed
  rw [located.path_of_aimed (.of_all (by decide) (by decide)) plain aimed]
  apply String.toList_inj.mp
  simp

theorem path_of_blob (located : r.Located artifact.repository host components)
    (plain : PlainPart name.toList) (aimed : Aimed (r.blobUrl name) q) :
    q.url.path = "/v2/" ++ artifact.repository ++ "/blobs/" ++ name := by
  rw [RemoteRepository.Located.blobUrl_eq] at aimed
  rw [located.path_of_aimed (.of_all (by decide) (by decide)) plain aimed]
  apply String.toList_inj.mp
  simp

theorem endpoint_of_selector {text : String}
    (parsed : Reference.parse .registry text = .ok artifact)
    (located : r.Located artifact.repository host components)
    (aimed : Aimed (r.manifestUrl artifact.selector.text) q) :
    Endpoint artifact subject q.url.path := by
  cases selected : artifact.selector with
  | tag name =>
    rw [selected] at aimed
    have plain := Reference.plainPart_of_checkTag (Reference.checkTag_of_parse parsed selected)
    rw [path_of_manifest located plain aimed]
    exact .tag selected
  | digest digest =>
    rw [selected] at aimed
    have wellFormed := (Reference.of_parse_digest parsed selected).1
    rw [path_of_manifest located wellFormed.plainPart aimed]
    exact .manifest wellFormed

theorem covers_of_wellFormed (located : r.Located artifact.repository host components)
    (network : Network (StateM σ)) (wellFormed : Digest.WellFormed subject) :
    RemoteRepository.Covers
      (fun q => Endpoint artifact subject q.url.path ∨ Stray r network q) r network subject where
  manifest q aimed := by
    rw [path_of_manifest located wellFormed.plainPart aimed]
    exact .inl (.manifest wellFormed)
  referrers text asked q aimed := by
    rw [located.path_of_aimed_referrers wellFormed.plainPart asked aimed]
    exact .inl (.referrers wellFormed)
  tagged q aimed := by
    rw [path_of_manifest located wellFormed.plainPart_referrersTag aimed]
    exact .inl (.referrersTag wellFormed)
  signature listed d mem q aimed := by
    by_cases own : Digest.WellFormed d.digest
    · rw [path_of_manifest located own.plainPart aimed]
      exact .inl (.manifest own)
    · exact .inr (.signature listed mem own aimed)
  envelope fetched layer found q aimed := by
    by_cases own : Digest.WellFormed layer.digest
    · rw [path_of_blob located own.plainPart aimed]
      exact .inl (.blob own)
    · exact .inr (.envelope fetched found own aimed)

end Located

namespace Command

variable {text : String} {artifact : Reference} {settings : RegistrySettings}
  {r : RemoteRepository} {host : List Char} {components : List (List Char)}

theorem exists_subject (artifact : Reference) (d : Descriptor) :
    ∃ subject, (cutLast? '@' (artifact.resolved d).text).map Prod.snd = some subject := by
  cases cut : cutLast? '@' (artifact.resolved d).text with
  | some sides => exact ⟨sides.2, rfl⟩
  | none =>
    have held : '@' ∈ (artifact.locator ++ "@" ++ d.digest).toList := by simp
    exact absurd held (cutLast?_eq_none_iff.mp cut)

theorem confined_run (located : r.Located artifact.repository host components)
    (network : Network (StateM σ)) (verifier : Verifier (StateM σ)) (options : VerifyOptions) :
    Confined
      (fun q => ∃ subject, options.digest = .ok subject ∧
        (Endpoint artifact subject q.url.path ∨ Stray r network q))
      (verifier.run (r.repository network) options)
      (verifier.beside.run (r.repository network.recorded) options) := by
  cases pinned : options.digest with
  | error cause =>
    rw [Verifier.run_eq, Verifier.run_eq, pinned]
    exact Confined.failed cause _ _
  | ok digest =>
    have wellFormed := (VerifyOptions.digest_eq_ok_iff.mp pinned).2
    have covers := covers_of_wellFormed located network wellFormed
    exact (RemoteRepository.confined_run covers wellFormed pinned).mono
      fun q kind => ⟨digest, rfl, kind⟩

/-- The requests that a run about an artifact of a registry issues of itself, for any registry:
its redirects are followed, but they are not among these requests. Each one asks for a place in
the repository, unless it is for a digest that the registry has handed out and that is not well
formed. An image layout answers such a digest with a fault and looks at no file. -/
theorem requests_result (parsed : Reference.parse .registry text = .ok artifact)
    (opened : RemoteRepository.open? artifact.registry artifact.repository settings = .ok r)
    (network : Network (StateM σ)) (verifier : Verifier (StateM σ)) :
    (∀ d : Descriptor, ¬ Digest.WellFormed d.digest →
      ∃ fault, ∀ (l : Layout) (files : Files (StateM σ)) (s : σ),
        answer ((l.repository files).fetchManifest d) s =
          (.error (.invalidReference d.digest fault), s) ∧
        answer ((l.repository files).fetchBlob d) s =
          (.error (.invalidReference d.digest fault), s)) ∧
    (∀ options, Confined
      (fun q => ∃ subject, options.digest = .ok subject ∧
        (Endpoint artifact subject q.url.path ∨ Stray r network q))
      (verifier.run (r.repository network) options)
      (verifier.beside.run (r.repository network.recorded) options)) ∧
    ∀ request s, ∃ log requests subject,
      (verify request artifact (r.repository network.recorded) verifier.beside).run ([], s) =
        (((verify request artifact (r.repository network) verifier).run s).1,
          (log, ((verify request artifact (r.repository network) verifier).run s).2)) ∧
      Issues log requests ∧
      (∀ d t, answer (r.resolve network artifact.selector.text) s = (.ok d, t) →
        (cutLast? '@' (artifact.resolved d).text).map Prod.snd = some subject) ∧
      ∀ q ∈ requests, Endpoint artifact subject q.url.path ∨ Stray r network q := by
  obtain ⟨host, components, located⟩ := RemoteRepository.located_of_open parsed opened
  refine ⟨?_, confined_run located network verifier, fun request s => ?_⟩
  · intro d malformed
    obtain ⟨fault, refused⟩ := Layout.answer_fetch_of_malformed malformed
    exact ⟨fault, fun l files s => ⟨answer_bind_of_error (refused l files s), refused l files s⟩⟩
  -- The subject is known once the artifact is resolved, so resolving it is looked at for any.
  have resolving (subject : String) := RemoteRepository.confined_resolve r network
    (P := fun q => Endpoint artifact subject q.url.path ∨ Stray r network q)
    (fun q aimed => .inl (endpoint_of_selector parsed located aimed)) s
  rw [verify_run, verify_run]
  simp only [RemoteRepository.repository_resolve]
  rcases hr : answer (r.resolve network artifact.selector.text) s with ⟨result, t⟩
  rw [hr] at resolving
  cases result with
  | error cause =>
    obtain ⟨log, requests, issues, kind, same⟩ := resolving ""
    refine ⟨log, requests, "", ?_, issues, ?_, kind⟩
    · rw [same, List.nil_append]
    · intro d u answered
      cases answered
  | ok d =>
    obtain ⟨subject, atEnd⟩ := exists_subject artifact d
    obtain ⟨log, requests, issues, kind, same⟩ := resolving subject
    obtain ⟨more, asked, others, alike, follows⟩ :=
      confined_run located network verifier (request.options (artifact.resolved d)) t
    refine ⟨log ++ more, requests ++ asked, subject, ?_, issues.append others, ?_, ?_⟩
    · simp only [same, List.nil_append, follows]
    · intro d' u answered
      cases answered
      exact atEnd
    · intro q mem
      rcases List.mem_append.mp mem with mem | mem
      · exact kind q mem
      · obtain ⟨digest, pinned, own⟩ := alike q mem
        have end_eq := (options_digest_eq_ok_iff.mp pinned).1
        rw [atEnd] at end_eq
        cases end_eq
        exact own

def remoteText : String := "reg.example/team/app@" ++ Verifier.sampleDigest

def remoteArtifact : Reference := ⟨"reg.example/team/app", .digest Verifier.sampleDigest⟩

def remoteSettings : RegistrySettings :=
  { RegistrySettings.initial with plain := true, maxRetries := 0 }

def remoteRepository : RemoteRepository :=
  ⟨"http://reg.example/v2/team/app", "reg.example/team/app", remoteSettings⟩

def remoteRequest : VerifyRequest := ⟨remoteText, ∅, ∅, .registry, none⟩

def remoteVerifier : Verifier (StateM Unit) :=
  KeyVerifier.withClock
    ⟨⟨"1.0", [⟨"app", ["reg.example/team/app"], .audit, .empty, ["team"]⟩]⟩, .empty⟩
    (pure KeyVerifier.sampleNow)

/-- What a registry lists that wants to be asked for something in another repository. -/
def lure : Descriptor :=
  ⟨MediaType.imageManifest, "../../../other/manifests/latest", 1, some MediaType.signature, none⟩

/-- A registry that describes every manifest, lists one signature, and has no content. -/
def luringNetwork : Network (StateM Unit) where
  send request := pure <|
    match request.method with
    | .head =>
      some ⟨200, [("docker-content-digest", Verifier.sampleDigest), ("content-length", "1")],
        none⟩
    | .get =>
      if request.accept = MediaType.imageIndex then
        some ⟨200, [], some (Json.encode { Index.empty with manifests := [lure] })⟩
      else none
  pause _ := pure ()

theorem remoteArtifact_parsed : Reference.parse .registry remoteText = .ok remoteArtifact := by
  decide +kernel

theorem remoteRepository_opened :
    RemoteRepository.open? remoteArtifact.registry remoteArtifact.repository remoteSettings =
      .ok remoteRepository := by
  decide +kernel

/-- A run that is lured away: its requests, up to the one for the digest that lures it. -/
theorem requests_result_lured :
    Reference.parse .registry remoteText = .ok remoteArtifact ∧
    RemoteRepository.open? remoteArtifact.registry remoteArtifact.repository remoteSettings =
      .ok remoteRepository ∧
    ∃ answered log rest requests subject,
      (verify remoteRequest remoteArtifact (remoteRepository.repository luringNetwork.recorded)
        remoteVerifier.beside).run ([], ()) = (answered, (log, rest)) ∧
      Issues log requests ∧
      ∀ q ∈ requests, Endpoint remoteArtifact subject q.url.path ∨
        Stray remoteRepository luringNetwork q := by
  obtain ⟨-, -, whole⟩ :=
    requests_result remoteArtifact_parsed remoteRepository_opened luringNetwork remoteVerifier
  obtain ⟨log, requests, subject, same, issues, -, kind⟩ := whole remoteRequest ()
  exact ⟨remoteArtifact_parsed, remoteRepository_opened, _, log, _, requests, subject, same,
    issues, kind⟩

def luredRun : (Transcript × Except Failure Unit) × List Exchange × Unit :=
  (verify remoteRequest remoteArtifact (remoteRepository.repository luringNetwork.recorded)
    remoteVerifier.beside).run ([], ())

set_option maxRecDepth 100000 in
theorem luredRun_exchanges :
    (∀ e ∈ luredRun.2.1, e.redirect? = none) ∧
      ∃ e ∈ luredRun.2.1, e.request.url.path = "/v2/other/manifests/latest" := by
  decide +kernel

theorem lure_malformed : ¬ Digest.WellFormed lure.digest := by
  have fault : Digest.parse lure.digest = .error .noSeparator := by decide +kernel
  rintro ⟨parts, parsed⟩
  cases fault.symm.trans parsed

/-- A registry lists a digest that is not well formed, and the client asks for what it spells,
which is in another repository. -/
theorem request_outside_repository :
    Reference.parse .registry remoteText = .ok remoteArtifact ∧
    RemoteRepository.open? remoteArtifact.registry remoteArtifact.repository remoteSettings =
      .ok remoteRepository ∧
    ¬ Digest.WellFormed lure.digest ∧
    ∃ answered log,
      (verify remoteRequest remoteArtifact (remoteRepository.repository luringNetwork.recorded)
        remoteVerifier.beside).run ([], ()) = (answered, (log, ())) ∧
      ∀ requests, Issues log requests →
        ∃ q ∈ requests, q.url.path = "/v2/other/manifests/latest" ∧
          ∀ subject, ¬ Endpoint remoteArtifact subject q.url.path := by
  rcases run : luredRun with ⟨answered, log, rest⟩
  have exchanges := luredRun_exchanges
  rw [run] at exchanges
  obtain ⟨direct, e, mem, path⟩ := exchanges
  refine ⟨remoteArtifact_parsed, remoteRepository_opened, lure_malformed, answered, log, run, ?_⟩
  intro requests issues
  rw [issues.eq_map direct]
  refine ⟨e.request, List.mem_map_of_mem mem, path, fun subject endpoint => ?_⟩
  have starts := endpoint.starts
  rw [path] at starts
  exact absurd starts (by decide +kernel)

end Command

end ArtifactTrust
