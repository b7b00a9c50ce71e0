import ArtifactTrust.Proofs.Command.Pinning
import ArtifactTrust.Proofs.Repository.Addressing
import ArtifactTrust.Proofs.Repository.Listing

/-!
# Other artifacts of an image layout

The manifest of another artifact may be opened when the signatures of one are listed. Nothing comes
of that as long as it can be fetched; otherwise nothing is listed at all.
-/

namespace ArtifactTrust

set_option autoImplicit false

theorem eq_of_answer {σ ε α : Type} {x y : ExceptT ε (StateM σ) α}
    (same : ∀ s, answer x s = answer y s) : x = y := ExceptT.ext (StateT.ext same)

/-! ### Verifications over two repositories -/

namespace Verifier

variable {σ : Type} {verifier : Verifier (StateM σ)} {r r' : Repository (StateM σ)}
  {options : VerifyOptions} {digest : String}

theorem attempt_congr (manifests : r'.fetchManifest = r.fetchManifest)
    (blobs : r'.fetchBlob = r.fetchBlob) (target signature : Descriptor) :
    verifier.attempt r' options target signature = verifier.attempt r options target signature := by
  rw [attempt, attempt, manifests, blobs]

theorem search_congr (manifests : r'.fetchManifest = r.fetchManifest)
    (blobs : r'.fetchBlob = r.fetchBlob) (target : Descriptor) (limit : Nat)
    (signatures : List Descriptor) :
    verifier.search r' options target limit signatures =
      verifier.search r options target limit signatures := by
  induction signatures generalizing limit with
  | nil => rw [search, search]
  | cons signature rest ih =>
    cases limit with
    | zero => rw [search, search]
    | succ limit =>
      rw [search, search, attempt_congr manifests blobs]
      congr 1
      funext found
      cases found with
      | none => exact ih limit
      | some outcome => rfl

/-- A verification asks for one digest, for the signatures of what that is resolved to, and for
content. -/
theorem run_congr (pinned : options.digest = .ok digest)
    (resolves : r'.resolve digest = r.resolve digest)
    (lists : ∀ target s t, answer (r.resolve digest) s = (.ok target, t) →
      r'.listSignatures target = r.listSignatures target)
    (manifests : r'.fetchManifest = r.fetchManifest) (blobs : r'.fetchBlob = r.fetchBlob) :
    verifier.run r' options = verifier.run r options := by
  have settled (target : Descriptor) (same : r'.listSignatures target = r.listSignatures target) :
      verifier.settleResolved r' options target = verifier.settleResolved r options target := by
    unfold settleResolved settleUnskipped settleListed
    simp only [same, search_congr manifests blobs]
  apply eq_of_answer
  intro s
  rw [run_eq, run_eq, pinned]
  change answer (asking (r'.resolve digest) >>= _) s = answer (asking (r.resolve digest) >>= _) s
  rw [resolves]
  rcases resolved : answer (asking (r.resolve digest)) s with ⟨cause | target, t⟩
  · rw [answer_bind_of_error resolved, answer_bind_of_error resolved]
  · have same := lists target s t (answer_asking_eq_ok_iff.mp resolved)
    rw [answer_bind_of_ok resolved, answer_bind_of_ok resolved, settled target same]

end Verifier

namespace Layout

variable {σ : Type} {l : Layout} {files files' : Files (StateM σ)}
  {subject target entry : Descriptor} {before after : List Descriptor} {digest : String}
  {cause : RepositoryError} {s t : σ}

/-! ### What a list depends on -/

theorem signaturesAmong_of_digest (same : target.digest = subject.digest)
    (entries : List Descriptor) :
    l.signaturesAmong files target entries = l.signaturesAmong files subject entries := by
  induction entries with
  | nil => rw [signaturesAmong, signaturesAmong]
  | cons entry rest ih =>
    have candidates : isCandidate target entry = isCandidate subject entry := by
      unfold isCandidate
      rw [same]
    have signed (manifest : Manifest) : signs target manifest = signs subject manifest := by
      unfold signs
      rw [same]
    rw [signaturesAmong, signaturesAmong, ih, candidates]
    simp only [signed]

theorem listSignatures_of_digest (same : target.digest = subject.digest) :
    l.listSignatures files target = l.listSignatures files subject := by
  unfold listSignatures
  simp only [signaturesAmong_of_digest same]

theorem signaturesAmong_congr (manifests : l.fetchManifest files' = l.fetchManifest files)
    (entries : List Descriptor) :
    l.signaturesAmong files' subject entries = l.signaturesAmong files subject entries := by
  induction entries with
  | nil => rw [signaturesAmong, signaturesAmong]
  | cons entry rest ih => rw [signaturesAmong, signaturesAmong, ih, manifests]

/-! ### One more entry -/

/-- An entry whose manifest is fetched, and is not that of a signature, leaves no trace. -/
theorem signaturesAmong_insert
    (passed : Candidate subject entry →
      ∃ manifest, l.fetchManifest files entry = pure manifest ∧ ¬ Signs subject manifest) :
    l.signaturesAmong files subject (before ++ entry :: after) =
      l.signaturesAmong files subject (before ++ after) := by
  induction before with
  | nil =>
    rw [List.nil_append, List.nil_append]
    by_cases candidate : Candidate subject entry
    · obtain ⟨manifest, fetched, other⟩ := passed candidate
      have unsigned : signs subject manifest = false :=
        Bool.eq_false_iff.mpr fun own => other (signs_iff.mp own)
      rw [signaturesAmong_cons after candidate, fetched, pure_bind]
      simp only [unsigned, Bool.false_eq_true, if_false, bind_pure]
    · exact signaturesAmong_cons_of_not after candidate
  | cons first rest ih =>
    rw [List.cons_append, List.cons_append, signaturesAmong, signaturesAmong, ih]

/-- A candidate whose manifest cannot be fetched ends the list, unless it has ended before. -/
theorem signaturesAmong_insert_of_throw (candidate : Candidate subject entry)
    (fails : l.fetchManifest files entry = throw cause) :
    l.signaturesAmong files subject (before ++ entry :: after) =
      (l.signaturesAmong files subject before >>= fun _ => throw cause) := by
  induction before with
  | nil =>
    rw [List.nil_append, signaturesAmong_cons after candidate, fails, signaturesAmong, pure_bind]
    rfl
  | cons first rest ih =>
    by_cases own : Candidate subject first
    · rw [List.cons_append, signaturesAmong_cons _ own, signaturesAmong_cons _ own, ih]
      simp only [bind_assoc, pure_bind]
      rfl
    · rw [List.cons_append, signaturesAmong_cons_of_not _ own, signaturesAmong_cons_of_not _ own,
        ih]

/-! ### Two layouts -/

/-- The index of an image layout lists another entry in the files `files'`, which are otherwise the
same. What the files hold of the index and of the entry stays as it is. -/
structure Inserted (l : Layout) (files files' : Files (StateM σ)) (entry : Descriptor)
    (before after : List Descriptor) : Prop where
  without : ∃ index : Index, index.manifests = before ++ after ∧
    ∀ s, answer (l.index files) s = (.ok index, s)
  within : ∃ index : Index, index.manifests = before ++ entry :: after ∧
    ∀ s, answer (l.index files') s = (.ok index, s)
  others : ∀ path, path ≠ l.indexPath → files'.read path = files.read path
  own : ∀ path, l.blobPath? entry.digest = some path →
    ∃ found, ∀ s, answer (files.read path) s = (found, s)

namespace Inserted

variable (inserted : l.Inserted files files' entry before after)
include inserted

theorem fetch_eq : l.fetch files' digest = l.fetch files digest := by
  have read : l.readBlob files' digest = l.readBlob files digest := by
    rcases parsed : Digest.parse digest with fault | ⟨algorithm, encoded⟩
    · unfold readBlob settled Digest.validate
      rw [parsed]
      rfl
    · have named : l.blobPath? digest = some (l.blobPath algorithm encoded) := by
        rw [blobPath?, parsed]
      have apart : l.blobPath algorithm encoded ≠ l.indexPath := fun same =>
        blobPath?_ne_indexPath (named.trans (congrArg some same))
      rw [readBlob_of_parse parsed, readBlob_of_parse parsed, inserted.others _ apart]
  rw [fetch, fetch, read]

theorem fetchManifest_eq : l.fetchManifest files' = l.fetchManifest files := by
  funext d
  rw [fetchManifest, fetchManifest, inserted.fetch_eq]

theorem index_within : ∃ index : Index, index.manifests = before ++ entry :: after ∧
    l.index files' = pure index := by
  obtain ⟨index, listed, read⟩ := inserted.within
  exact ⟨index, listed, eq_of_answer read⟩

theorem index_without : ∃ index : Index, index.manifests = before ++ after ∧
    l.index files = pure index := by
  obtain ⟨index, listed, read⟩ := inserted.without
  exact ⟨index, listed, eq_of_answer read⟩

theorem listSignatures_within :
    l.listSignatures files' subject =
      l.signaturesAmong files subject (before ++ entry :: after) := by
  obtain ⟨index, listed, known⟩ := inserted.index_within
  rw [listSignatures, known, pure_bind, listed, signaturesAmong_congr inserted.fetchManifest_eq]

theorem listSignatures_without :
    l.listSignatures files subject = l.signaturesAmong files subject (before ++ after) := by
  obtain ⟨index, listed, known⟩ := inserted.index_without
  rw [listSignatures, known, pure_bind, listed]

theorem resolve_eq (isDigest : isDigest digest = true) (other : entry.digest ≠ digest) :
    l.resolve files' digest = l.resolve files digest := by
  obtain ⟨index, listed, known⟩ := inserted.index_without
  obtain ⟨index', listed', known'⟩ := inserted.index_within
  have passed : isNamed digest entry = false := by simp [isNamed, isDigest, other]
  have found :
      index'.manifests.find? (isNamed digest) = index.manifests.find? (isNamed digest) := by
    rw [listed', listed, List.find?_append, List.find?_append,
      List.find?_cons_of_neg (by simp [passed])]
  have described : l.describe files' digest = l.describe files digest := by
    rw [describe, describe, inserted.fetch_eq]
  rw [resolve, resolve, known, known', pure_bind, pure_bind, found, described]

/-- The manifest of the entry is the same each time, or cannot be fetched for the same reason. -/
theorem fetchManifest_cases :
    (∃ manifest, l.fetchManifest files entry = pure manifest) ∨
      ∃ cause, l.fetchManifest files entry = throw cause := by
  have fetched : ∃ r, ∀ s, answer (l.fetch files entry.digest) s = (r, s) := by
    rcases parsed : Digest.parse entry.digest with fault | ⟨algorithm, encoded⟩
    · have malformed : ¬ Digest.WellFormed entry.digest := by
        rintro ⟨parts, own⟩
        cases parsed.symm.trans own
      obtain ⟨fault, refused⟩ := answer_fetch_of_malformed (σ := σ) malformed
      exact ⟨_, refused l files⟩
    · have named : l.blobPath? entry.digest = some (l.blobPath algorithm encoded) := by
        rw [blobPath?, parsed]
      obtain ⟨found, read⟩ := inserted.own _ named
      exact ⟨_, fun s => answer_fetch_of_parse parsed (read s)⟩
  obtain ⟨r, fetched⟩ := fetched
  let read : ByteArray → Except RepositoryError Manifest :=
    readAs Json.decode? (Fault.malformedManifest entry.digest).error
  have answered (s : σ) : answer (l.fetchManifest files entry) s = (r.bind read, s) := by
    rw [Layout.fetchManifest_eq, answer_bind_readAs, fetched]
  cases ended : r.bind read with
  | ok manifest =>
    rw [ended] at answered
    exact .inl ⟨manifest, eq_of_answer answered⟩
  | error cause =>
    rw [ended] at answered
    exact .inr ⟨cause, eq_of_answer answered⟩

end Inserted

theorem isDigest_of_pinned {options : VerifyOptions} (pinned : options.digest = .ok digest) :
    isDigest digest = true :=
  List.contains_iff_mem.mpr (VerifyOptions.digest_eq_ok_iff.mp pinned).2.colon_mem

/-- A verification of another artifact is the same if the list of its signatures is. -/
theorem Inserted.run_eq {verifier : Verifier (StateM σ)} {options : VerifyOptions}
    (inserted : l.Inserted files files' entry before after) (other : entry.digest ≠ subject.digest)
    (same : l.listSignatures files' subject = l.listSignatures files subject)
    (pinned : options.digest = .ok subject.digest) :
    verifier.run (l.repository files') options = verifier.run (l.repository files) options := by
  have colon := isDigest_of_pinned pinned
  refine Verifier.run_congr pinned (inserted.resolve_eq colon other) ?_ inserted.fetchManifest_eq ?_
  · intro target s t resolved
    have own := ((resolve_eq_ok_iff colon).mp resolved).digest_eq
    change l.listSignatures files' target = l.listSignatures files target
    rw [listSignatures_of_digest own, listSignatures_of_digest own, same]
  · funext d
    exact inserted.fetch_eq

/-- Without a list of signatures a verification succeeds only if it is skipped. -/
theorem skipped_of_unlisted {verifier : Verifier (StateM σ)} {options : VerifyOptions}
    {found : Descriptor} {outcomes : List Outcome}
    (unlisted : ∀ s t signatures, answer (l.listSignatures files subject) s ≠ (.ok signatures, t))
    (pinned : options.digest = .ok subject.digest)
    (succeeds : answer (verifier.run (l.repository files) options) s = (.ok (found, outcomes), t)) :
    outcomes = [.skipped] := by
  obtain ⟨digest, s₁, level, s₂, own, resolved, -, ended⟩ := Verifier.found_of_run succeeds
  cases pinned.symm.trans own
  have colon := isDigest_of_pinned pinned
  rcases ended with ⟨-, skipped⟩ | ⟨-, signatures, s₃, outcome, -, lists, -⟩
  · exact skipped
  · have same := ((resolve_eq_ok_iff colon).mp resolved).digest_eq
    change answer (l.listSignatures files found) s₂ = _ at lists
    rw [listSignatures_of_digest same] at lists
    exact absurd lists (unlisted s₂ s₃ signatures)

/-- What another entry of the index, of another artifact, does to the signatures of an artifact. If
its manifest need not or can be fetched, the list and every verification are the same as without
the entry. If it cannot be fetched, there is no list: the failure is that of the entry, or of an
earlier one, and what still succeeds is a verification that is skipped. -/
theorem listed_beside_neighbour (inserted : l.Inserted files files' entry before after)
    (other : entry.digest ≠ subject.digest)
    (unrelated : Candidate subject entry →
      ∀ manifest, l.fetchManifest files entry = pure manifest → ¬ Signs subject manifest) :
    ((Candidate subject entry → ∀ cause, l.fetchManifest files entry ≠ throw cause) →
      (l.repository files').listSignatures subject =
        (l.repository files).listSignatures subject ∧
      ∀ (verifier : Verifier (StateM σ)) (options : VerifyOptions),
        options.digest = .ok subject.digest →
        verifier.run (l.repository files') options = verifier.run (l.repository files) options) ∧
    (Candidate subject entry → ∀ cause, l.fetchManifest files entry = throw cause →
      (l.repository files').listSignatures subject =
        (l.signaturesAmong files subject before >>= fun _ => throw cause) ∧
      ∀ (verifier : Verifier (StateM σ)) (options : VerifyOptions) (s t : σ)
        (found : Descriptor) (outcomes : List Outcome), options.digest = .ok subject.digest →
        answer (verifier.run (l.repository files') options) s = (.ok (found, outcomes), t) →
        outcomes = [.skipped]) := by
  refine ⟨?_, ?_⟩
  · intro fetchable
    have same : l.listSignatures files' subject = l.listSignatures files subject := by
      rw [inserted.listSignatures_within, inserted.listSignatures_without]
      apply signaturesAmong_insert
      intro candidate
      rcases inserted.fetchManifest_cases with ⟨manifest, fetched⟩ | ⟨cause, fails⟩
      · exact ⟨manifest, fetched, unrelated candidate manifest fetched⟩
      · exact absurd fails (fetchable candidate cause)
    exact ⟨same, fun verifier options pinned => inserted.run_eq other same pinned⟩
  · intro candidate cause fails
    have barred : l.listSignatures files' subject =
        (l.signaturesAmong files subject before >>= fun _ => throw cause) := by
      rw [inserted.listSignatures_within, signaturesAmong_insert_of_throw candidate fails]
    refine ⟨barred, fun verifier options s t found outcomes pinned succeeds => ?_⟩
    refine skipped_of_unlisted (fun s t signatures lists => ?_) pinned succeeds
    rw [barred] at lists
    obtain ⟨earlier, u, -, thrown⟩ := answer_bind_eq_ok_iff.mp lists
    cases thrown

/-! ### A layout with an artifact, its signature and another entry -/

def neighbourSubject : Descriptor :=
  ⟨MediaType.imageManifest, Verifier.sampleDigest, 7, none, none⟩

def neighbourManifest (artifactType : Option String) : Manifest :=
  ⟨2, none, artifactType, ⟨MediaType.signature, "", 0, none, none⟩, [],
    some ⟨"", Verifier.sampleDigest, 0, none, none⟩, none⟩

def signedHex : String := "5756365e417088ce7fbfcf0434c859648feb911e737a386a039647553a06230f"

def reportHex : String := "e43e87ca48654404570a9315eac767d0ee16cf24ccfc97e52a4240d8b1dbb7ee"

def signedEntry : Descriptor := listedEntry signedHex 230 none

/-- A report about the artifact, which is no signature. -/
def reportEntry : Descriptor := listedEntry reportHex 254 none

/-- An entry whose content was left out of the layout. -/
def sparseEntry : Descriptor := listedEntry (String.ofList (List.replicate 64 'b')) 1 none

def neighbourFiles (entries : List Descriptor) : Files (StateM Unit) where
  read path := ExceptT.mk <| pure <|
    if path = "layout/index.json" then
      .ok (Json.encode { Index.empty with manifests := entries })
    else if path = "layout/blobs/sha256/" ++ signedHex then
      .ok (Json.encode (neighbourManifest none))
    else if path = "layout/blobs/sha256/" ++ reportHex then
      .ok (Json.encode (neighbourManifest (some "report")))
    else .error .missing
  list _ := ExceptT.mk (pure (.error .missing))

theorem neighbourFiles_index (entries : List Descriptor) :
    answer (listedLayout.index (neighbourFiles entries)) () =
      (.ok { Index.empty with manifests := entries }, ()) := by
  have read : answer ((neighbourFiles entries).read listedLayout.indexPath) () =
      (.ok (Json.encode { Index.empty with manifests := entries }), ()) := rfl
  unfold index
  rw [answer_bind_of_ok (answer_reading_eq_ok_iff.mpr read), Index.faithful.decode?_encode]
  rfl

theorem neighbourFiles_inserted (entry : Descriptor) :
    listedLayout.Inserted (neighbourFiles [neighbourSubject, signedEntry])
      (neighbourFiles [neighbourSubject, entry, signedEntry]) entry [neighbourSubject]
      [signedEntry] where
  without := ⟨_, rfl, fun _ => neighbourFiles_index _⟩
  within := ⟨_, rfl, fun _ => neighbourFiles_index _⟩
  others path apart := by
    have elsewhere : path ≠ "layout/index.json" := apart
    simp only [neighbourFiles, elsewhere, if_false]
  own path _ := ⟨_, fun _ => rfl⟩

theorem neighbourFiles_signed (entries : List Descriptor) :
    listedLayout.StoresManifest (neighbourFiles entries) signedEntry (neighbourManifest none)
      () () := by
  apply storesManifest_of_encode
  refine ⟨.sha256, signedHex, Digest.parse_eq_ok_iff.mpr ?_, rfl, ?_⟩
  · change "sha256:" ++ signedHex = _ ∧ _
    decide +kernel
  · change _ = "sha256:" ++ signedHex
    decide +kernel

theorem neighbourFiles_report (entries : List Descriptor) :
    listedLayout.fetchManifest (neighbourFiles entries) reportEntry =
      pure (neighbourManifest (some "report")) := by
  apply eq_of_answer
  intro s
  apply fetchManifest_eq_ok_iff.mpr
  apply storesManifest_of_encode
  refine ⟨.sha256, reportHex, Digest.parse_eq_ok_iff.mpr ?_, rfl, ?_⟩
  · change "sha256:" ++ reportHex = _ ∧ _
    decide +kernel
  · change _ = "sha256:" ++ reportHex
    decide +kernel

theorem neighbourFiles_sparse (entries : List Descriptor) :
    listedLayout.fetchManifest (neighbourFiles entries) sparseEntry =
      throw (.notFound ("layout@" ++ sparseEntry.digest)) := by
  have parsed : Digest.parse sparseEntry.digest =
      .ok (.sha256, String.ofList (List.replicate 64 'b')) :=
    Digest.parse_eq_ok_iff.mpr (by decide +kernel)
  apply eq_of_answer
  intro s
  rw [Layout.fetchManifest_eq, answer_bind_readAs, answer_fetch_of_parse parsed rfl]
  rfl

theorem neighbourFiles_listed :
    answer (listedLayout.listSignatures (neighbourFiles [neighbourSubject, signedEntry])
      neighbourSubject) () =
        (.ok [{ signedEntry with artifactType := some MediaType.signature }], ()) := by
  have fetches : Fetches listedLayout (neighbourFiles [neighbourSubject, signedEntry])
      [(signedEntry, neighbourManifest none)] () () :=
    .cons (neighbourFiles_signed _) (.nil ())
  exact answer_listSignatures_of_listing (neighbourFiles_index _)
    (.complete fetches (by decide +kernel))

/-- Beside a report about the artifact its signature is listed. -/
theorem listed_beside_neighbour_report :
    reportEntry.digest ≠ neighbourSubject.digest ∧ Candidate neighbourSubject reportEntry ∧
      answer ((listedLayout.repository (neighbourFiles [neighbourSubject, reportEntry,
        signedEntry])).listSignatures neighbourSubject) () =
          (.ok [{ signedEntry with artifactType := some MediaType.signature }], ()) := by
  have other : reportEntry.digest ≠ neighbourSubject.digest := by decide +kernel
  have candidate : Candidate neighbourSubject reportEntry := ⟨rfl, other, .inl rfl⟩
  have report := neighbourFiles_report [neighbourSubject, signedEntry]
  have unrelated : Candidate neighbourSubject reportEntry → ∀ manifest,
      listedLayout.fetchManifest (neighbourFiles [neighbourSubject, signedEntry]) reportEntry =
        pure manifest → ¬ Signs neighbourSubject manifest := by
    intro _ manifest fetched
    have same := congrArg (fun action => (answer action ()).1) (report.symm.trans fetched)
    cases same
    decide +kernel
  have fetchable : Candidate neighbourSubject reportEntry → ∀ cause,
      listedLayout.fetchManifest (neighbourFiles [neighbourSubject, signedEntry]) reportEntry ≠
        throw cause := by
    intro _ cause fails
    have same := congrArg (fun action => (answer action ()).1) (report.symm.trans fails)
    cases same
  obtain ⟨same, -⟩ :=
    (listed_beside_neighbour (neighbourFiles_inserted reportEntry) other unrelated).1 fetchable
  refine ⟨other, candidate, ?_⟩
  rw [same]
  exact neighbourFiles_listed

/-- Beside an entry whose content was left out, and of which nothing is known, it is not. -/
theorem sparse_neighbour_bars :
    listedLayout.Inserted (neighbourFiles [neighbourSubject, signedEntry])
        (neighbourFiles [neighbourSubject, sparseEntry, signedEntry]) sparseEntry
        [neighbourSubject] [signedEntry] ∧
      sparseEntry.digest ≠ neighbourSubject.digest ∧
      (∀ manifest s t, ¬ listedLayout.StoresManifest
        (neighbourFiles [neighbourSubject, signedEntry]) sparseEntry manifest s t) ∧
      answer ((listedLayout.repository (neighbourFiles
        [neighbourSubject, signedEntry])).listSignatures neighbourSubject) () =
          (.ok [{ signedEntry with artifactType := some MediaType.signature }], ()) ∧
      answer ((listedLayout.repository (neighbourFiles
        [neighbourSubject, sparseEntry, signedEntry])).listSignatures neighbourSubject) () =
          (.error (.notFound ("layout@" ++ sparseEntry.digest)), ()) := by
  have inserted := neighbourFiles_inserted sparseEntry
  have other : sparseEntry.digest ≠ neighbourSubject.digest := by decide +kernel
  have candidate : Candidate neighbourSubject sparseEntry := ⟨rfl, other, .inl rfl⟩
  have fails := neighbourFiles_sparse [neighbourSubject, signedEntry]
  refine ⟨inserted, other, fun manifest s t stores => ?_, neighbourFiles_listed, ?_⟩
  · have fetched := fetchManifest_eq_ok_iff.mpr stores
    rw [fails] at fetched
    cases fetched
  · change answer (listedLayout.listSignatures _ _) () = _
    have passed : ¬ Candidate neighbourSubject neighbourSubject := fun own => own.other rfl
    rw [inserted.listSignatures_within, signaturesAmong_insert_of_throw candidate fails,
      signaturesAmong_cons_of_not [] passed]
    rfl

end Layout

end ArtifactTrust
