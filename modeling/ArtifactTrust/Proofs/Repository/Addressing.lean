import ArtifactTrust.Proofs.Registry.Repetition
import ArtifactTrust.Proofs.Registry.Retries
import ArtifactTrust.Proofs.Repository.Resolution

/-!
# Content by its digest

An image layout and a registry that keep the same content under a digest say the same of it,
whatever is kept, and nothing but the digest of a descriptor is looked at.
-/

namespace ArtifactTrust

set_option autoImplicit false

open Registry

variable {σ τ α : Type} {digest : String} {s t : σ}

/-- Content that is kept by digest, which it need not have. -/
abbrev Contents : Type := String → Option ByteArray

/-! ### What is said of kept content -/

/-- What is found under a digest, once it is checked and read. -/
def Contents.fetched (contents : Contents) (digest missing : String) :
    Except RepositoryError ByteArray :=
  match contents digest with
  | none => .error (.notFound missing)
  | some content => (Digest.verifyContent digest content).map fun _ => content

def readAs (read : ByteArray → Option α) (malformed : RepositoryError) (content : ByteArray) :
    Except RepositoryError α :=
  match read content with
  | some a => .ok a
  | none => .error malformed

section Reading

variable {x : ExceptT RepositoryError (StateM σ) ByteArray} {read : ByteArray → Option α}
  {malformed : RepositoryError}

theorem answer_bind_readAs (x : ExceptT RepositoryError (StateM σ) ByteArray)
    (read : ByteArray → Option α) (malformed : RepositoryError) (s : σ) :
    answer (x >>= fun content => ExceptT.mk (pure (readAs read malformed content))) s =
      ((answer x s).1.bind (readAs read malformed), (answer x s).2) := by
  rw [answer_bind]
  rcases answer x s with ⟨r, t⟩
  cases r with
  | ok content => rfl
  | error e => rfl

theorem answer_bind_readAs_eq_ok_iff {a : α} :
    answer (x >>= fun content => ExceptT.mk (pure (readAs read malformed content))) s =
        (.ok a, t) ↔
      ∃ content, answer x s = (.ok content, t) ∧ read content = some a := by
  rw [answer_bind_eq_ok_iff]
  refine exists_congr fun content => ?_
  unfold readAs
  cases read content with
  | none => simp
  | some own =>
    simp only [answer_mk_pure, Prod.mk.injEq, Except.ok.injEq, Option.some.injEq]
    constructor
    · rintro ⟨u, ran, same, rfl⟩
      exact ⟨ran, same⟩
    · rintro ⟨ran, same⟩
      exact ⟨t, ran, same, rfl⟩

end Reading

/-- What two repositories say of a digest under which they keep the same. -/
inductive Agree (contents : Contents) (digest : String) (read : ByteArray → Option α) :
    Except RepositoryError α → Except RepositoryError α → Prop
  | found {content : ByteArray} {a : α} (kept : contents digest = some content)
      (verified : Digest.verifyContent digest content = .ok ()) (reads : read content = some a) :
      Agree contents digest read (.ok a) (.ok a)
  | missing (none : contents digest = none) (name name' : String) :
      Agree contents digest read (.error (.notFound name)) (.error (.notFound name'))
  | mismatch {content : ByteArray} {algorithm : Digest.Algorithm} {encoded : String}
      (kept : contents digest = some content)
      (parsed : Digest.parse digest = .ok (algorithm, encoded))
      (other : Digest.ofContent algorithm content ≠ digest) :
      Agree contents digest read
        (.error (.digestMismatch digest (Digest.ofContent algorithm content)))
        (.error (.digestMismatch digest (Digest.ofContent algorithm content)))
  | malformed {content : ByteArray} (kept : contents digest = some content)
      (verified : Digest.verifyContent digest content = .ok ()) (fails : read content = none)
      (detail detail' : String) :
      Agree contents digest read (.error (.layout detail)) (.error (.invalidResponse detail'))

theorem Contents.agree_fetched (contents : Contents) (wellFormed : Digest.WellFormed digest)
    (read : ByteArray → Option α) (name name' detail detail' : String) :
    Agree contents digest read
      ((contents.fetched digest name).bind (readAs read (.layout detail)))
      ((contents.fetched digest name').bind (readAs read (.invalidResponse detail'))) := by
  obtain ⟨⟨algorithm, encoded⟩, parsed⟩ := wellFormed
  unfold fetched
  cases kept : contents digest with
  | none => exact .missing kept name name'
  | some content =>
    simp only
    by_cases same : Digest.ofContent algorithm content = digest
    · have verified : Digest.verifyContent digest content = .ok () := by
        rw [Digest.verifyContent_of_parse parsed, if_pos same]
      rw [verified]
      change Agree contents digest read (readAs read _ content) (readAs read _ content)
      unfold readAs
      cases reads : read content with
      | some a => exact .found kept verified reads
      | none => exact .malformed kept verified reads detail detail'
    · rw [Digest.verifyContent_of_parse parsed, if_neg same]
      exact .mismatch kept parsed same

/-! ### Image layouts -/

namespace Layout

variable {l : Layout} {files : Files (StateM σ)} {contents : Contents}

/-- The file for a digest is there if something is kept under it, and holds that. -/
def Keeps (l : Layout) (files : Files (StateM σ)) (contents : Contents) (digest : String) : Prop :=
  ∀ algorithm encoded, Digest.parse digest = .ok (algorithm, encoded) → ∀ s,
    (answer (files.read (l.blobPath algorithm encoded)) s).1 =
      match contents digest with
      | some content => .ok content
      | none => .error .missing

theorem answer_fetch_of_keeps (wellFormed : Digest.WellFormed digest)
    (keeps : l.Keeps files contents digest) (s : σ) :
    (answer (l.fetch files digest) s).1 = contents.fetched digest (l.referenceText digest) := by
  obtain ⟨⟨algorithm, encoded⟩, parsed⟩ := wellFormed
  have kept := keeps algorithm encoded parsed s
  rw [answer_fetch_of_parse parsed (Prod.eta _).symm, kept]
  unfold Contents.fetched
  cases contents digest with
  | none => rfl
  | some content => rfl

theorem fetchManifest_eq (l : Layout) (files : Files (StateM σ)) (d : Descriptor) :
    l.fetchManifest files d = (l.fetch files d.digest >>= fun content =>
      ExceptT.mk (pure (readAs Json.decode? (Fault.malformedManifest d.digest).error content))) := by
  unfold fetchManifest readAs
  congr 1
  funext content
  cases (Json.decode? content : Option Manifest) with
  | some manifest => rfl
  | none => rfl

end Layout

/-! ### Registries -/

/-- A request whose answer leaves no doubt is sent once. -/
theorem answer_request_of_answered {settings : RegistrySettings} {i : Inquiry} {q : Request}
    {a : Answer} {network : Network (StateM σ)} (built : i.request? settings = some q)
    (answered : (network.send q).run s = (some a, t))
    (decided : 200 ≤ a.status ∧ a.status < 300 ∨ a.status ∈ [401, 403, 404]) :
    answer (request network settings i.method i.url i.accept i.what) s = (judge i.what a, t) := by
  have direct : redirect? q.url a = none := by
    apply redirect?_eq_none
    simp only [List.mem_cons, List.not_mem_nil, or_false] at decided
    omega
  have sent : answer (send network maxRedirects q) s = (.ok a, t) := by
    rw [answer_send, answered]
    simp only [direct]
  apply answer_retrying_of_settled
  · rw [attempt_of_built built, answer_bind_of_ok sent]
    rfl
  · rw [Bool.eq_false_iff, ne_eq, isTransient_judge]
    rintro ⟨failed, unknown⟩
    rcases decided with success | known
    · exact failed success
    · exact unknown known

namespace RemoteRepository

variable {r : RemoteRepository} {network : Network (StateM σ)} {contents : Contents}

/-- An answer holds all of what is kept, or says that there is nothing. -/
def Tells (kept : Option ByteArray) (a : Answer) : Prop :=
  match kept with
  | some content => a.status = 200 ∧ a.body = some content
  | none => a.status = 404

/-- The registry can be asked for a manifest and for content by a digest, and tells each time what
is kept under it. -/
def Serves (r : RemoteRepository) (network : Network (StateM σ)) (contents : Contents)
    (digest : String) : Prop :=
  ∀ i ∈ [r.manifestInquiry .get digest, r.blobInquiry digest],
    ∃ q, i.request? r.settings = some q ∧ ∀ s, ∃ a t, (network.send q).run s = (some a, t) ∧
      Tells (contents digest) a

/-- Content comes in an answer, and has its digest under the algorithm that the digest names. -/
def Receives (r : RemoteRepository) (network : Network (StateM σ)) (i : Inquiry)
    (digest : String) (content : ByteArray) (s t : σ) : Prop :=
  ∃ a algorithm encoded,
    answer (request network r.settings i.method i.url i.accept i.what) s = (.ok a, t) ∧
      a.body = some content ∧ Digest.parse digest = .ok (algorithm, encoded) ∧
      Digest.ofContent algorithm content = digest

/-- All of an answer, once it is checked against a digest. -/
def verified {m : Type → Type} [Monad m] (r : RemoteRepository) (network : Network m) (i : Inquiry)
    (digest what : String) : ExceptT RepositoryError m ByteArray := do
  let a ← request network r.settings i.method i.url i.accept i.what
  let content ← body what a
  checked digest content
  return content

theorem fetchBlob_eq (d : Descriptor) :
    r.fetchBlob network d = r.verified network (r.blobInquiry d.digest) d.digest "blob" := rfl

theorem fetchManifest_eq (r : RemoteRepository) (network : Network (StateM σ)) (d : Descriptor) :
    r.fetchManifest network d =
      (r.verified network (r.manifestInquiry .get d.digest) d.digest "manifest" >>= fun content =>
        ExceptT.mk (pure (readAs Json.decode? (.invalidResponse
          ("failed to parse manifest " ++ d.digest ++ ": the document holds something else"))
          content))) := by
  unfold fetchManifest manifestContent verified readAs
  simp only [bind_assoc, pure_bind]
  congr 1
  funext a
  congr 1
  funext content
  congr 1
  funext u
  cases (Json.decode? content : Option Manifest) with
  | some manifest => rfl
  | none => rfl

theorem answer_verified_of_tells {i : Inquiry} {q : Request} {a : Answer} (what : String)
    (built : i.request? r.settings = some q) (answered : (network.send q).run s = (some a, t))
    (tells : Tells (contents digest) a) :
    (answer (r.verified network i digest what) s).1 = contents.fetched digest i.what := by
  unfold Tells at tells
  unfold verified Contents.fetched
  cases kept : contents digest with
  | none =>
    rw [kept] at tells
    have missing : judge i.what a = .error (.notFound i.what) := by
      simp [judge, tells]
    have asked := answer_request_of_answered built answered (.inr (by simp [tells]))
    rw [missing] at asked
    rw [answer_bind_of_error asked]
  | some content =>
    rw [kept] at tells
    have success : judge i.what a = .ok a := by
      simp [judge, tells.1]
    have asked := answer_request_of_answered built answered (.inl (by simp [tells.1]))
    rw [success] at asked
    rw [answer_bind_of_ok asked]
    unfold body checked
    rw [tells.2]
    simp only [pure_bind]
    cases Digest.verifyContent digest content with
    | ok u => rfl
    | error e => rfl

theorem verified_eq_ok_iff {i : Inquiry} {what : String} {content : ByteArray} :
    answer (r.verified network i digest what) s = (.ok content, t) ↔
      r.Receives network i digest content s t := by
  unfold verified
  rw [answer_bind_eq_ok_iff]
  constructor
  · rintro ⟨a, u, asked, read⟩
    unfold body at read
    cases there : a.body with
    | none =>
      rw [there] at read
      cases read
    | some own =>
      rw [there] at read
      simp only [checked, pure_bind] at read
      cases matched : Digest.verifyContent digest own with
      | error e =>
        rw [matched] at read
        cases read
      | ok done =>
        rw [matched] at read
        cases read
        obtain ⟨⟨algorithm, encoded⟩, valid, same⟩ := Digest.verifyContent_eq_ok_iff.mp matched
        exact ⟨a, algorithm, encoded, asked, there, Digest.validate_eq_ok_iff.mp valid, same⟩
  · rintro ⟨a, algorithm, encoded, asked, there, parsed, same⟩
    refine ⟨a, t, asked, ?_⟩
    unfold body checked
    rw [there]
    simp only [pure_bind]
    rw [Digest.verifyContent_of_parse parsed, if_pos same]
    rfl

end RemoteRepository

/-! ### Both of them -/

theorem agree_fetchBlob {l : Layout} {files : Files (StateM σ)} {r : RemoteRepository}
    {network : Network (StateM τ)} {contents : Contents} {d : Descriptor}
    (wellFormed : Digest.WellFormed d.digest) (keeps : l.Keeps files contents d.digest)
    (serves : r.Serves network contents d.digest) (s : σ) (t : τ) :
    Agree contents d.digest some (answer ((l.repository files).fetchBlob d) s).1
      (answer ((r.repository network).fetchBlob d) t).1 := by
  obtain ⟨q, built, answers⟩ := serves (r.blobInquiry d.digest) (by simp)
  obtain ⟨a, u, answered, tells⟩ := answers t
  have same (x : Except RepositoryError ByteArray) (e : RepositoryError) :
      x.bind (readAs some e) = x := by
    cases x <;> rfl
  have agree := contents.agree_fetched wellFormed some (l.referenceText d.digest)
    (r.referenceText d.digest) "" ""
  rw [same, same] at agree
  change Agree contents d.digest some (answer (l.fetch files d.digest) s).1
    (answer (r.verified network (r.blobInquiry d.digest) d.digest "blob") t).1
  rw [Layout.answer_fetch_of_keeps wellFormed keeps,
    RemoteRepository.answer_verified_of_tells "blob" built answered tells]
  exact agree

theorem agree_fetchManifest {l : Layout} {files : Files (StateM σ)} {r : RemoteRepository}
    {network : Network (StateM τ)} {contents : Contents} {d : Descriptor}
    (wellFormed : Digest.WellFormed d.digest) (keeps : l.Keeps files contents d.digest)
    (serves : r.Serves network contents d.digest) (s : σ) (t : τ) :
    Agree contents d.digest Json.decode? (answer ((l.repository files).fetchManifest d) s).1
      (answer ((r.repository network).fetchManifest d) t).1 := by
  obtain ⟨q, built, answers⟩ := serves (r.manifestInquiry .get d.digest) (by simp)
  obtain ⟨a, u, answered, tells⟩ := answers t
  change Agree contents d.digest Json.decode? (answer (l.fetchManifest files d) s).1
    (answer (r.fetchManifest network d) t).1
  rw [Layout.fetchManifest_eq, RemoteRepository.fetchManifest_eq, answer_bind_readAs,
    answer_bind_readAs, Layout.answer_fetch_of_keeps wellFormed keeps,
    RemoteRepository.answer_verified_of_tells "manifest" built answered tells]
  exact contents.agree_fetched wellFormed Json.decode? _ _ _ _

/-- Under a well-formed digest a layout and a registry that keep the same hand out the same, or
fail alike. Whatever files and answers there are, what either of them hands out was read from
content that has the digest under the algorithm it names, and descriptors of one digest are
answered in one way. -/
theorem fetches_by_digest (l : Layout) (files : Files (StateM σ)) (r : RemoteRepository)
    (network : Network (StateM τ)) (d : Descriptor) :
    (∀ contents : Contents, Digest.WellFormed d.digest → l.Keeps files contents d.digest →
      r.Serves network contents d.digest → ∀ (s : σ) (t : τ),
        Agree contents d.digest some (answer ((l.repository files).fetchBlob d) s).1
          (answer ((r.repository network).fetchBlob d) t).1 ∧
        Agree contents d.digest Json.decode?
          (answer ((l.repository files).fetchManifest d) s).1
          (answer ((r.repository network).fetchManifest d) t).1) ∧
    (∀ s s',
      (∀ content, answer ((l.repository files).fetchBlob d) s = (.ok content, s') ↔
        l.Stores files d.digest content s s') ∧
      ∀ manifest, answer ((l.repository files).fetchManifest d) s = (.ok manifest, s') ↔
        ∃ content, l.Stores files d.digest content s s' ∧
          Json.decode? content = some manifest) ∧
    (∀ t t',
      (∀ content, answer ((r.repository network).fetchBlob d) t = (.ok content, t') ↔
        r.Receives network (r.blobInquiry d.digest) d.digest content t t') ∧
      ∀ manifest, answer ((r.repository network).fetchManifest d) t = (.ok manifest, t') ↔
        ∃ content, r.Receives network (r.manifestInquiry .get d.digest) d.digest content t t' ∧
          Json.decode? content = some manifest) ∧
    ∀ e : Descriptor, e.digest = d.digest →
      ((l.repository files).fetchBlob e = (l.repository files).fetchBlob d ∧
        (l.repository files).fetchManifest e = (l.repository files).fetchManifest d) ∧
      (r.repository network).fetchBlob e = (r.repository network).fetchBlob d ∧
        (r.repository network).fetchManifest e = (r.repository network).fetchManifest d := by
  refine ⟨?_, ?_, ?_, ?_⟩
  · intro contents wellFormed keeps serves s t
    exact ⟨agree_fetchBlob wellFormed keeps serves s t,
      agree_fetchManifest wellFormed keeps serves s t⟩
  · intro s s'
    refine ⟨fun content => Layout.fetch_eq_ok_iff, fun manifest => ?_⟩
    change answer (l.fetchManifest files d) s = _ ↔ _
    rw [Layout.fetchManifest_eq, answer_bind_readAs_eq_ok_iff]
    exact exists_congr fun content => and_congr_left fun _ => Layout.fetch_eq_ok_iff
  · intro t t'
    refine ⟨fun content => ?_, fun manifest => ?_⟩
    · change answer (r.fetchBlob network d) t = _ ↔ _
      rw [RemoteRepository.fetchBlob_eq]
      exact RemoteRepository.verified_eq_ok_iff
    change answer (r.fetchManifest network d) t = _ ↔ _
    rw [RemoteRepository.fetchManifest_eq, answer_bind_readAs_eq_ok_iff]
    exact exists_congr fun content => and_congr_left fun _ => RemoteRepository.verified_eq_ok_iff
  · intro e same
    refine ⟨⟨?_, ?_⟩, ?_, ?_⟩
    · change l.fetch files e.digest = _
      rw [same]
      rfl
    · change l.fetchManifest files e = l.fetchManifest files d
      unfold Layout.fetchManifest
      rw [same]
    · change r.fetchBlob network e = r.fetchBlob network d
      unfold RemoteRepository.fetchBlob
      rw [same]
    · change r.fetchManifest network e = r.fetchManifest network d
      unfold RemoteRepository.fetchManifest
      rw [same]

def keptLayout : Layout := ⟨"layout"⟩

def keptDocuments : Contents := fun digest =>
  if digest = RemoteRepository.emptyDocument.digest then some "{}".toUTF8 else none

def keptFiles : Files (StateM Unit) where
  read path :=
    if path = "layout/blobs/sha256/" ++
        "44136fa355b3678a1146ad16f7e8649e94fb4fc21fe77e8310c060f61caaff8a" then
      pure "{}".toUTF8
    else throw .missing
  list _ := pure []

def keptNetwork : Network (StateM Unit) where
  send q := pure <| some <|
    if q.url.path = "/v2/team/app/blobs/" ++ RemoteRepository.emptyDocument.digest ∨
        q.url.path = "/v2/team/app/manifests/" ++ RemoteRepository.emptyDocument.digest then
      ⟨200, [], some "{}".toUTF8⟩
    else ⟨404, [], none⟩
  pause _ := pure ()

theorem emptyDocument_parsed : Digest.parse RemoteRepository.emptyDocument.digest =
    .ok (.sha256, "44136fa355b3678a1146ad16f7e8649e94fb4fc21fe77e8310c060f61caaff8a") :=
  Digest.parse_eq_ok_iff.mpr (by decide +kernel)

theorem keptLayout_keeps :
    keptLayout.Keeps keptFiles keptDocuments RemoteRepository.emptyDocument.digest := by
  intro algorithm encoded parsed s
  cases emptyDocument_parsed.symm.trans parsed
  have path : keptLayout.blobPath .sha256
      "44136fa355b3678a1146ad16f7e8649e94fb4fc21fe77e8310c060f61caaff8a" =
      "layout/blobs/sha256/" ++
        "44136fa355b3678a1146ad16f7e8649e94fb4fc21fe77e8310c060f61caaff8a" := by decide +kernel
  simp only [keptFiles, path, if_true, keptDocuments]
  rfl

theorem patientRepository_serves : RemoteRepository.patientRepository.Serves keptNetwork
    keptDocuments RemoteRepository.emptyDocument.digest := by
  have paths : ∀ i ∈ [RemoteRepository.patientRepository.manifestInquiry .get
        RemoteRepository.emptyDocument.digest,
      RemoteRepository.patientRepository.blobInquiry RemoteRepository.emptyDocument.digest],
      (i.request? RemoteRepository.patientRepository.settings).any (fun q => decide
        (q.url.path = "/v2/team/app/blobs/" ++ RemoteRepository.emptyDocument.digest ∨
          q.url.path = "/v2/team/app/manifests/" ++ RemoteRepository.emptyDocument.digest)) =
        true := by
    decide +kernel
  intro i mem
  obtain ⟨q, built, path⟩ := (Option.any_eq_true _ _).mp (paths i mem)
  refine ⟨q, built, fun s => ⟨⟨200, [], some "{}".toUTF8⟩, s, ?_, ?_⟩⟩
  · simp only [keptNetwork, if_pos (of_decide_eq_true path)]
    rfl
  · simp [RemoteRepository.Tells, keptDocuments]

theorem emptyDocument_verified :
    Digest.ofContent .sha256 "{}".toUTF8 = RemoteRepository.emptyDocument.digest := by
  decide +kernel

/-- A document is fetched from both of them. -/
theorem fetches_by_digest_kept :
    Digest.WellFormed RemoteRepository.emptyDocument.digest ∧
    keptLayout.Keeps keptFiles keptDocuments RemoteRepository.emptyDocument.digest ∧
    RemoteRepository.patientRepository.Serves keptNetwork keptDocuments
      RemoteRepository.emptyDocument.digest ∧
    (answer ((keptLayout.repository keptFiles).fetchBlob RemoteRepository.emptyDocument) ()).1 =
      .ok "{}".toUTF8 ∧
    (answer ((RemoteRepository.patientRepository.repository keptNetwork).fetchBlob
      RemoteRepository.emptyDocument) ()).1 = .ok "{}".toUTF8 := by
  have wellFormed : Digest.WellFormed RemoteRepository.emptyDocument.digest :=
    ⟨_, emptyDocument_parsed⟩
  obtain ⟨alike, -⟩ := fetches_by_digest keptLayout keptFiles RemoteRepository.patientRepository
    keptNetwork RemoteRepository.emptyDocument
  obtain ⟨agree, -⟩ := alike keptDocuments wellFormed keptLayout_keeps patientRepository_serves
    () ()
  refine ⟨wellFormed, keptLayout_keeps, patientRepository_serves, ?_⟩
  have kept : keptDocuments RemoteRepository.emptyDocument.digest = some "{}".toUTF8 := if_pos rfl
  generalize (answer ((keptLayout.repository keptFiles).fetchBlob _) ()).1 = x at agree ⊢
  generalize (answer ((RemoteRepository.patientRepository.repository keptNetwork).fetchBlob _)
    ()).1 = y at agree ⊢
  cases agree with
  | found own verified reads =>
    cases kept.symm.trans own
    cases reads
    exact ⟨rfl, rfl⟩
  | missing none => cases kept.symm.trans none
  | mismatch own parsed other =>
    cases kept.symm.trans own
    cases emptyDocument_parsed.symm.trans parsed
    exact absurd emptyDocument_verified other
  | malformed own verified fails => cases fails

end ArtifactTrust
