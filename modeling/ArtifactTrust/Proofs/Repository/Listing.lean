import ArtifactTrust.Proofs.Json.Documents
import ArtifactTrust.Proofs.Repository.Containment
import Mathlib.Data.List.Forall2

/-!
# The signatures that an image layout lists

An index need not say which of its entries are signatures, so manifests are fetched, in the order of
the index; the first one that cannot be fetched takes the place of the list.
-/

namespace ArtifactTrust

set_option autoImplicit false

/-- The files at some paths are read one after the other, and nothing else is done with files. -/
def ReadsAt (log : List FileAccess) (paths : List String) : Prop :=
  List.Forall₂ (fun access path => ∃ found, access = .read path found) log paths

theorem ReadsAt.append {log rest : List FileAccess} {paths others : List String}
    (reads : ReadsAt log paths) (behind : ReadsAt rest others) :
    ReadsAt (log ++ rest) (paths ++ others) :=
  List.rel_append reads behind

namespace Layout

variable {σ : Type} {l : Layout} {files : Files (StateM σ)} {subject entry : Descriptor}
  {manifest : Manifest} {digest : String} {s t u : σ}

/-! ### Entries and manifests -/

/-- An entry of an index that may be a signature of an artifact: it may leave its kind open, but it
does not claim another one, and it is not the artifact itself. -/
structure Candidate (subject entry : Descriptor) : Prop where
  mediaType : entry.mediaType = MediaType.imageManifest
  other : entry.digest ≠ subject.digest
  artifactType : entry.artifactType = none ∨ entry.artifactType = some MediaType.signature

theorem isCandidate_iff : isCandidate subject entry = true ↔ Candidate subject entry := by
  unfold isCandidate
  simp only [Bool.and_eq_true, decide_eq_true_eq]
  constructor
  · rintro ⟨⟨mediaType, other⟩, kind⟩
    refine ⟨mediaType, other, ?_⟩
    cases given : entry.artifactType with
    | none => exact .inl rfl
    | some artifactType =>
      rw [given, Option.all_some, decide_eq_true_eq] at kind
      exact .inr (congrArg some kind)
  · rintro ⟨mediaType, other, given | given⟩
    · exact ⟨⟨mediaType, other⟩, by rw [given]; rfl⟩
    · exact ⟨⟨mediaType, other⟩, by rw [given]; rfl⟩

instance (subject : Descriptor) : DecidablePred (Candidate subject) :=
  fun _ => decidable_of_iff _ isCandidate_iff

/-- A manifest is about an artifact and is that of a signature, by its own kind or else by that of
its configuration. -/
structure Signs (subject : Descriptor) (manifest : Manifest) : Prop where
  about : ∃ d, manifest.subject = some d ∧ d.digest = subject.digest
  kind : manifest.artifactType = some MediaType.signature ∨
    manifest.artifactType = none ∧ manifest.config.mediaType = MediaType.signature

theorem signs_iff : signs subject manifest = true ↔ Signs subject manifest := by
  have kind : manifest.effectiveType = MediaType.signature ↔
      manifest.artifactType = some MediaType.signature ∨
        manifest.artifactType = none ∧ manifest.config.mediaType = MediaType.signature := by
    unfold Manifest.effectiveType
    cases manifest.artifactType <;> simp
  have about : manifest.subject.any (·.digest = subject.digest) = true ↔
      ∃ d, manifest.subject = some d ∧ d.digest = subject.digest := by
    cases manifest.subject <;> simp
  unfold signs
  rw [Bool.and_eq_true, about, decide_eq_true_eq, kind]
  exact ⟨fun ⟨about, kind⟩ => ⟨about, kind⟩, fun ⟨about, kind⟩ => ⟨about, kind⟩⟩

instance (subject : Descriptor) : DecidablePred (Signs subject) :=
  fun _ => decidable_of_iff _ signs_iff

/-- The signatures among entries whose manifests are there, in order. What an index says of a
signature is kept, but for its kind and its annotations. -/
def signaturesOf (subject : Descriptor) (found : List (Descriptor × Manifest)) : List Descriptor :=
  (found.filter fun (_, manifest) => Signs subject manifest).map fun (entry, manifest) =>
    ⟨entry.mediaType, entry.digest, entry.size, some MediaType.signature, manifest.annotations⟩

theorem signaturesOf_cons (found : List (Descriptor × Manifest)) :
    signaturesOf subject ((entry, manifest) :: found) =
      if signs subject manifest then signatureEntry entry manifest :: signaturesOf subject found
      else signaturesOf subject found := by
  unfold signaturesOf
  by_cases holds : Signs subject manifest
  · rw [List.filter_cons_of_pos (by simpa using holds), List.map_cons,
      if_pos (signs_iff.mpr holds)]
    rfl
  · rw [List.filter_cons_of_neg (by simpa using holds),
      if_neg fun own => holds (signs_iff.mp own)]

/-! ### Fetching -/

/-- The file for an entry is there, its content has the digest that the entry names, and it reads as
a manifest. -/
def StoresManifest (l : Layout) (files : Files (StateM σ)) (entry : Descriptor)
    (manifest : Manifest) (s t : σ) : Prop :=
  ∃ content, l.Stores files entry.digest content s t ∧ Json.decode? content = some manifest

theorem fetchManifest_eq_ok_iff :
    answer (l.fetchManifest files entry) s = (.ok manifest, t) ↔
      l.StoresManifest files entry manifest s t := by
  unfold fetchManifest StoresManifest
  rw [answer_bind_eq_ok_iff]
  constructor
  · rintro ⟨content, t₁, fetched, read⟩
    cases decoded : (Json.decode? content : Option Manifest) with
    | none =>
      rw [decoded] at read
      cases read
    | some found =>
      rw [decoded] at read
      cases read
      exact ⟨content, fetch_eq_ok_iff.mp fetched, decoded⟩
  · rintro ⟨content, stores, decoded⟩
    refine ⟨content, t, fetch_eq_ok_iff.mpr stores, ?_⟩
    rw [decoded]
    rfl

/-- Entries with their manifests, which are fetched one after the other. -/
inductive Fetches (l : Layout) (files : Files (StateM σ)) :
    List (Descriptor × Manifest) → σ → σ → Prop
  | nil (s : σ) : Fetches l files [] s s
  | cons {entry : Descriptor} {manifest : Manifest} {found : List (Descriptor × Manifest)}
      {s t u : σ} (first : l.StoresManifest files entry manifest s t)
      (others : Fetches l files found t u) : Fetches l files ((entry, manifest) :: found) s u

/-- What comes of the entries in question: which of them are reached, and the list or else the
failure of the first one that cannot be fetched. -/
inductive Listing (l : Layout) (files : Files (StateM σ)) (subject : Descriptor)
    (candidates : List Descriptor) :
    List Descriptor → Except RepositoryError (List Descriptor) → σ → σ → Prop
  | complete {found : List (Descriptor × Manifest)} {s t : σ}
      (fetches : Fetches l files found s t) (all : candidates = found.map Prod.fst) :
      Listing l files subject candidates candidates (.ok (signaturesOf subject found)) s t
  | failed {found : List (Descriptor × Manifest)} {entry : Descriptor} {rest : List Descriptor}
      {e : RepositoryError} {s t u : σ} (fetches : Fetches l files found s t)
      (fails : answer (l.fetchManifest files entry) t = (.error e, u))
      (first : candidates = found.map Prod.fst ++ entry :: rest) :
      Listing l files subject candidates (found.map Prod.fst ++ [entry]) (.error e) s u

theorem exists_listing (l : Layout) (files : Files (StateM σ)) (subject : Descriptor)
    (candidates : List Descriptor) (s : σ) :
    ∃ reached r t, Listing l files subject candidates reached r s t := by
  induction candidates generalizing s with
  | nil => exact ⟨_, _, _, .complete (.nil s) rfl⟩
  | cons entry rest ih =>
    rcases fetched : answer (l.fetchManifest files entry) s with ⟨e | manifest, t⟩
    · exact ⟨_, _, _, .failed (.nil s) fetched rfl⟩
    · have stores := fetchManifest_eq_ok_iff.mp fetched
      obtain ⟨reached, r, u, listing⟩ := ih t
      cases listing with
      | complete fetches all =>
        exact ⟨_, _, _, .complete (.cons stores fetches) (congrArg (entry :: ·) all)⟩
      | failed fetches fails first =>
        exact ⟨_, _, _, .failed (.cons stores fetches) fails (congrArg (entry :: ·) first)⟩

/-! ### The list -/

theorem signaturesAmong_cons_of_not (rest : List Descriptor)
    (passed : ¬ Candidate subject entry) :
    l.signaturesAmong files subject (entry :: rest) = l.signaturesAmong files subject rest := by
  rw [signaturesAmong]
  exact if_neg fun own => passed (isCandidate_iff.mp own)

theorem signaturesAmong_cons (rest : List Descriptor) (candidate : Candidate subject entry) :
    l.signaturesAmong files subject (entry :: rest) = (do
      let manifest ← l.fetchManifest files entry
      let others ← l.signaturesAmong files subject rest
      return if signs subject manifest then signatureEntry entry manifest :: others
        else others) := by
  rw [signaturesAmong]
  exact if_pos (isCandidate_iff.mpr candidate)

theorem answer_signaturesAmong_of_fetches {entries : List Descriptor}
    {found : List (Descriptor × Manifest)} (fetches : Fetches l files found s t)
    (all : entries.filter (Candidate subject ·) = found.map Prod.fst) :
    answer (l.signaturesAmong files subject entries) s =
      (.ok (signaturesOf subject found), t) := by
  induction entries generalizing found s with
  | nil =>
    rw [List.filter_nil, eq_comm, List.map_eq_nil_iff] at all
    subst all
    cases fetches
    rfl
  | cons entry rest ih =>
    by_cases candidate : Candidate subject entry
    · rw [List.filter_cons_of_pos (by simpa using candidate)] at all
      cases fetches with
      | nil => cases all
      | cons first others =>
        obtain ⟨rfl, later⟩ := List.cons.inj all
        rw [signaturesAmong_cons rest candidate,
          answer_bind_of_ok (fetchManifest_eq_ok_iff.mpr first),
          answer_bind_of_ok (ih others later), signaturesOf_cons]
        rfl
    · rw [List.filter_cons_of_neg (by simpa using candidate)] at all
      rw [signaturesAmong_cons_of_not rest candidate]
      exact ih fetches all

theorem answer_signaturesAmong_of_fails {entries rest : List Descriptor}
    {found : List (Descriptor × Manifest)} {e : RepositoryError}
    (fetches : Fetches l files found s t)
    (fails : answer (l.fetchManifest files entry) t = (.error e, u))
    (first : entries.filter (Candidate subject ·) = found.map Prod.fst ++ entry :: rest) :
    answer (l.signaturesAmong files subject entries) s = (.error e, u) := by
  induction entries generalizing found s with
  | nil => exact absurd (congrArg List.length first) (by simp)
  | cons other behind ih =>
    by_cases candidate : Candidate subject other
    · rw [List.filter_cons_of_pos (by simpa using candidate)] at first
      rw [signaturesAmong_cons behind candidate]
      cases fetches with
      | nil =>
        obtain ⟨rfl, -⟩ := List.cons.inj first
        rw [answer_bind_of_error fails]
      | cons stores others =>
        obtain ⟨rfl, later⟩ := List.cons.inj first
        rw [answer_bind_of_ok (fetchManifest_eq_ok_iff.mpr stores),
          answer_bind_of_error (ih others later)]
    · rw [List.filter_cons_of_neg (by simpa using candidate)] at first
      rw [signaturesAmong_cons_of_not behind candidate]
      exact ih fetches first

theorem answer_listSignatures_of_listing {index : Index} {reached : List Descriptor}
    {r : Except RepositoryError (List Descriptor)}
    (read : answer (l.index files) s = (.ok index, t))
    (listing : Listing l files subject (index.manifests.filter (Candidate subject ·)) reached r
      t u) :
    answer (l.listSignatures files subject) s = (r, u) := by
  unfold listSignatures
  rw [answer_bind_of_ok read]
  cases listing with
  | complete fetches all => exact answer_signaturesAmong_of_fetches fetches all
  | failed fetches fails first => exact answer_signaturesAmong_of_fails fetches fails first

/-! ### The files that are opened -/

/-- The file for a digest, if that is well formed. -/
def blobPath? (l : Layout) (digest : String) : Option String :=
  match Digest.parse digest with
  | .ok (algorithm, encoded) => some (l.blobPath algorithm encoded)
  | .error _ => none

theorem OpensBlob.readsAt {α : Type} {log : List FileAccess} {r : Except RepositoryError α}
    (opens : l.OpensBlob digest log r) : ReadsAt log (l.blobPath? digest).toList := by
  unfold blobPath?
  cases opens with
  | refused parsed =>
    rw [parsed]
    exact List.Forall₂.nil
  | opened parsed found =>
    rw [parsed]
    exact List.Forall₂.cons ⟨found, rfl⟩ .nil

def blobPaths (l : Layout) (entries : List Descriptor) : List String :=
  entries.flatMap fun entry => (l.blobPath? entry.digest).toList

theorem recorded_fetchManifest {r : Except RepositoryError Manifest}
    (fetched : answer (l.fetchManifest files entry) s = (r, t)) (before : List FileAccess) :
    ∃ log, ReadsAt log (l.blobPaths [entry]) ∧
      answer (l.fetchManifest files.recorded entry) (before, s) = (r, (before ++ log, t)) := by
  obtain ⟨log, opens, same⟩ := (@traced_fetchManifest _ files l entry) s
  rw [fetched] at same
  refine ⟨log, ?_, same before⟩
  rw [blobPaths, List.flatMap_singleton]
  exact opens.readsAt

theorem recorded_index {r : Except RepositoryError Index}
    (read : answer (l.index files) s = (r, t)) (before : List FileAccess) :
    ∃ log, ReadsAt log [l.indexPath] ∧
      answer (l.index files.recorded) (before, s) = (r, (before ++ log, t)) := by
  obtain ⟨log, ⟨found, rfl, -⟩, same⟩ := (@traced_index _ files l) s
  rw [read] at same
  exact ⟨_, List.Forall₂.cons ⟨found, rfl⟩ .nil, same before⟩

theorem Fetches.recorded {found : List (Descriptor × Manifest)} (fetches : Fetches l files found s t)
    (before : List FileAccess) :
    ∃ log, ReadsAt log (l.blobPaths (found.map Prod.fst)) ∧
      Fetches l files.recorded found (before, s) (before ++ log, t) := by
  induction fetches generalizing before with
  | nil s => exact ⟨[], List.Forall₂.nil, by rw [List.append_nil]; exact .nil _⟩
  | cons first others ih =>
    obtain ⟨log, own, fetched⟩ :=
      recorded_fetchManifest (fetchManifest_eq_ok_iff.mpr first) before
    obtain ⟨rest, later, fetches⟩ := ih (before ++ log)
    rw [List.append_assoc] at fetches
    refine ⟨log ++ rest, ?_, .cons (fetchManifest_eq_ok_iff.mp fetched) fetches⟩
    rw [blobPaths, List.flatMap_singleton] at own
    exact own.append later

theorem Listing.recorded {candidates reached : List Descriptor}
    {r : Except RepositoryError (List Descriptor)}
    (listing : Listing l files subject candidates reached r s t) (before : List FileAccess) :
    ∃ log, ReadsAt log (l.blobPaths reached) ∧
      Listing l files.recorded subject candidates reached r (before, s) (before ++ log, t) := by
  cases listing with
  | complete fetches all =>
    obtain ⟨log, reads, fetches⟩ := fetches.recorded before
    exact ⟨log, all ▸ reads, .complete fetches all⟩
  | failed fetches fails first =>
    obtain ⟨log, reads, fetches⟩ := fetches.recorded before
    obtain ⟨rest, last, fails⟩ := recorded_fetchManifest fails (before ++ log)
    rw [List.append_assoc] at fails
    refine ⟨log ++ rest, ?_, .failed fetches fails first⟩
    unfold blobPaths at reads last ⊢
    rw [List.flatMap_append]
    exact reads.append last

theorem blobPath?_inj {other path : String} (named : l.blobPath? digest = some path)
    (same : l.blobPath? other = some path) : digest = other := by
  unfold blobPath? at named same
  rcases parsed : Digest.parse digest with fault | ⟨algorithm, encoded⟩
  · rw [parsed] at named
    cases named
  rcases parsed' : Digest.parse other with fault | ⟨algorithm', encoded'⟩
  · rw [parsed'] at same
    cases same
  rw [parsed, Option.some.injEq, blobPath_eq algorithm (isAbsolute_of_parse parsed)] at named
  rw [parsed', Option.some.injEq, blobPath_eq algorithm' (isAbsolute_of_parse parsed')] at same
  have relative (a : Digest.Algorithm) (e : String) :
      FilePath.isAbsolute ("blobs/" ++ a.name ++ "/" ++ e) = false := by simp [FilePath.isAbsolute]
  have paths := named.trans same.symm
  rw [FilePath.join_eq (relative algorithm encoded), FilePath.join_eq (relative algorithm' encoded'),
    String.append_right_inj] at paths
  -- The names of the algorithms have one length, so they end at one place in both paths.
  have length (a : Digest.Algorithm) : a.name.toList.length = 6 := by cases a <;> rfl
  have texts := congrArg String.toList paths
  simp only [String.toList_append, List.append_assoc, List.append_cancel_left_eq] at texts
  obtain ⟨names, behind⟩ := List.append_inj texts (by rw [length, length])
  have digits : encoded = encoded' := String.toList_inj.mp (List.append_cancel_left behind)
  rw [(Digest.parse_eq_ok_iff.mp parsed).1, (Digest.parse_eq_ok_iff.mp parsed').1, digits,
    String.toList_inj.mp names]

theorem mem_blobPaths_iff {entries : List Descriptor} {path : String} :
    path ∈ l.blobPaths entries ↔ ∃ entry ∈ entries, l.blobPath? entry.digest = some path := by
  unfold blobPaths
  simp only [List.mem_flatMap, Option.mem_toList]

theorem blobPath?_ne_indexPath : l.blobPath? digest ≠ some l.indexPath := by
  intro named
  unfold blobPath? at named
  rcases parsed : Digest.parse digest with fault | ⟨algorithm, encoded⟩
  · rw [parsed] at named
    cases named
  have relative : FilePath.isAbsolute "index.json" = false := rfl
  rw [parsed, Option.some.injEq, blobPath_eq algorithm (isAbsolute_of_parse parsed), indexPath,
    FilePath.join_eq relative, FilePath.join_eq (by simp [FilePath.isAbsolute]),
    String.append_right_inj] at named
  have first := congrArg (fun text => text.toList.head?) named
  simp at first

theorem Listing.subset {candidates reached : List Descriptor}
    {r : Except RepositoryError (List Descriptor)}
    (listing : Listing l files subject candidates reached r s t) : reached ⊆ candidates := by
  cases listing with
  | complete fetches all => exact List.Subset.refl candidates
  | failed fetches fails first =>
    rw [first]
    intro entry mem
    rcases List.mem_append.mp mem with mem | mem
    · exact List.mem_append_left _ mem
    · exact List.mem_append_right _ (List.mem_singleton.mp mem ▸ List.mem_cons_self)

/-- What an image layout lists as the signatures of an artifact, whatever its files hold and
however they change in between. The entries in question are fetched in the order of the index, up
to the first one that cannot be, whose failure is the result; if there is none, the result is made
of all of them. Besides the index the files of those that are reached are read, in that order, and
no file of another digest. -/
theorem signatures_listed (subject : Descriptor) {index : Index}
    (read : answer (l.index files) s = (.ok index, t)) :
    let candidates := index.manifests.filter (Candidate subject ·)
    (∃ reached r u, Listing l files subject candidates reached r t u) ∧
    ∀ reached r u, Listing l files subject candidates reached r t u →
      answer ((l.repository files).listSignatures subject) s = (r, u) ∧
      (∀ before, ∃ log, ReadsAt log (l.indexPath :: l.blobPaths reached) ∧
        answer ((l.repository files.recorded).listSignatures subject) (before, s) =
          (r, (before ++ log, u))) ∧
      ∀ digest path, (∀ candidate ∈ candidates, candidate.digest ≠ digest) →
        l.blobPath? digest = some path → path ∉ l.indexPath :: l.blobPaths reached := by
  refine ⟨exists_listing l files subject _ t, ?_⟩
  intro reached r u listing
  refine ⟨answer_listSignatures_of_listing read listing, fun before => ?_, ?_⟩
  · -- The record is kept by files of another world, of which the same is true.
    obtain ⟨log, first, opened⟩ := recorded_index read before
    obtain ⟨rest, blobs, again⟩ := listing.recorded (before ++ log)
    have answered := answer_listSignatures_of_listing opened again
    rw [List.append_assoc] at answered
    exact ⟨log ++ rest, first.append blobs, answered⟩
  · intro digest path others named mem
    rcases List.mem_cons.mp mem with rfl | mem
    · exact blobPath?_ne_indexPath named
    · obtain ⟨entry, among, own⟩ := mem_blobPaths_iff.mp mem
      exact others entry (listing.subset among) (blobPath?_inj own named)

/-! ### An index with one of each -/

theorem storesManifest_of_encode
    (stores : l.Stores files entry.digest (Json.encode manifest) s t) :
    l.StoresManifest files entry manifest s t :=
  ⟨_, stores, Manifest.faithful.decode?_encode manifest⟩

def listedSubject : Descriptor :=
  ⟨MediaType.imageManifest, "d", 7, none, none⟩

def listedManifest (artifactType : Option String) (annotations : Option Labels) : Manifest :=
  ⟨2, none, artifactType, ⟨MediaType.signature, "", 0, none, none⟩, [],
    some ⟨"", "d", 0, none, none⟩, annotations⟩

def signatureHex : String := "f521c9bbaf9bc44a44c5512443f0cf8d9fcaa7ef8cd06bd4f61fdff1545e6d7d"

def exampleHex : String := "ad9d08bb18edb92d4d7d23526e6f38fca7ccdf15542dfb5731edde195a6b9c48"

def teamLabels : Option Labels := some (.ofList [("by", "team")])

def listedEntry (encoded : String) (size : UInt64) (artifactType : Option String) : Descriptor :=
  ⟨MediaType.imageManifest, "sha256:" ++ encoded, size, artifactType, none⟩

/-- The artifact itself, an example about it, an entry whose file is missing but which is no
signature, and a signature that is listed twice. -/
def listedEntries : List Descriptor :=
  [listedSubject, listedEntry exampleHex 185 none,
    listedEntry (String.ofList (List.replicate 64 'b')) 1 (some "example"),
    listedEntry signatureHex 188 none, listedEntry signatureHex 9 (some MediaType.signature)]

def listedFiles : Files (StateM Unit) where
  read path := ExceptT.mk <| pure <|
    if path = "layout/index.json" then
      .ok (Json.encode { Index.empty with manifests := listedEntries })
    else if path = "layout/blobs/sha256/" ++ exampleHex then
      .ok (Json.encode (listedManifest (some "example") none))
    else if path = "layout/blobs/sha256/" ++ signatureHex then
      .ok (Json.encode (listedManifest none teamLabels))
    else .error .missing
  list _ := ExceptT.mk (pure (.error .missing))

def listedLayout : Layout := ⟨"layout"⟩

theorem listedLayout_index : answer (listedLayout.index listedFiles) () =
    (.ok { Index.empty with manifests := listedEntries }, ()) := by
  have read : answer (listedFiles.read listedLayout.indexPath) () =
      (.ok (Json.encode { Index.empty with manifests := listedEntries }), ()) := rfl
  unfold index
  rw [answer_bind_of_ok (answer_reading_eq_ok_iff.mpr read), Index.faithful.decode?_encode]
  rfl

theorem listedLayout_example :
    listedLayout.StoresManifest listedFiles (listedEntry exampleHex 185 none)
      (listedManifest (some "example") none) () () := by
  apply storesManifest_of_encode
  refine ⟨.sha256, exampleHex, Digest.parse_eq_ok_iff.mpr (by decide +kernel), rfl, ?_⟩
  decide +kernel

theorem listedLayout_signature (size : UInt64) (artifactType : Option String) :
    listedLayout.StoresManifest listedFiles (listedEntry signatureHex size artifactType)
      (listedManifest none teamLabels) () () := by
  apply storesManifest_of_encode
  refine ⟨.sha256, signatureHex, Digest.parse_eq_ok_iff.mpr ?_, rfl, ?_⟩
  · change "sha256:" ++ signatureHex = _ ∧ _
    decide +kernel
  · change Digest.ofContent .sha256 (Json.encode (listedManifest none teamLabels)) =
      "sha256:" ++ signatureHex
    decide +kernel

/-- Each time that it is listed the signature is found, though its index leaves its kind open. -/
theorem signatures_listed_twice :
    answer (listedLayout.index listedFiles) () =
      (.ok { Index.empty with manifests := listedEntries }, ()) ∧
    answer ((listedLayout.repository listedFiles).listSignatures listedSubject) () =
      (.ok [⟨MediaType.imageManifest, "sha256:" ++ signatureHex, 188, some MediaType.signature,
          teamLabels⟩,
        ⟨MediaType.imageManifest, "sha256:" ++ signatureHex, 9, some MediaType.signature,
          teamLabels⟩], ()) := by
  obtain ⟨-, each⟩ := signatures_listed listedSubject listedLayout_index
  have fetches : Fetches listedLayout listedFiles
      [(listedEntry exampleHex 185 none, listedManifest (some "example") none),
        (listedEntry signatureHex 188 none, listedManifest none teamLabels),
        (listedEntry signatureHex 9 (some MediaType.signature), listedManifest none teamLabels)]
      () () :=
    .cons listedLayout_example <| .cons (listedLayout_signature _ _) <|
      .cons (listedLayout_signature _ _) <| .nil ()
  obtain ⟨answered, -⟩ := each _ _ _ (.complete fetches (by decide +kernel))
  exact ⟨listedLayout_index, answered⟩

end Layout

end ArtifactTrust
