import ArtifactTrust.Proofs.Command.Pinning

/-!
# Whether a verified artifact is there

A layout reads the content of an artifact only where its index does not list the digest, so a report
of success vouches for the content in that case alone.
-/

namespace ArtifactTrust.Command

set_option autoImplicit false

open Text

variable {σ : Type} {request : VerifyRequest} {artifact : Reference} {l : Layout}
  {files : Files (StateM σ)} {verifier : Verifier (StateM σ)} {s u : σ}

/-- A run that succeeds reports the digest that it has resolved once more, by way of its text. -/
theorem resolves_of_success {written : Transcript}
    (runs : (verify request artifact (l.repository files) verifier).run s =
      ((written, .ok ()), u)) :
    ∃ d s₁ digest target s₂ outcome,
      answer (l.resolve files artifact.selector.text) s = (.ok d, s₁) ∧
      written = referenceWarning artifact ++ outcomeReport (artifact.resolved d).text outcome ∧
      (cutLast? '@' (artifact.resolved d).text).map Prod.snd = some digest ∧
      l.Resolves files digest target s₁ s₂ := by
  rw [verify_run] at runs
  rcases hr : answer ((l.repository files).resolve artifact.selector.text) s with ⟨r, s₁⟩
  rw [hr] at runs
  cases r with
  | error cause => cases runs
  | ok d =>
    simp only at runs
    rcases hv : answer (verifier.run (l.repository files)
      (request.options (artifact.resolved d))) s₁ with ⟨result, t⟩
    rw [hv] at runs
    obtain ⟨target, outcome, rest, rfl, rfl⟩ := conclude_eq_ok (congrArg Prod.fst runs)
    obtain ⟨digest, s₂, pinned, resolved, -⟩ := Verifier.accepted_of_run hv
    obtain ⟨atEnd, wellFormed⟩ := options_digest_eq_ok_iff.mp pinned
    have colon : Layout.isDigest digest = true := List.contains_iff_mem.mpr wellFormed.colon_mem
    exact ⟨d, s₁, digest, target, s₂, outcome, hr, rfl, atEnd,
      (Layout.resolve_eq_ok_iff colon).mp resolved⟩

/-- When the artifact of an image layout is there. To resolve a digest succeeds without a look at
the content if the index lists the digest, and otherwise exactly if the file of the digest holds a
manifest that hashes to it. So is it with a run that succeeds and the digest that it reports: the
content is in its file, with the digest and the size of the descriptor, unless the index lists the
digest when the run asks for it. -/
theorem present_unless_listed (l : Layout) (files : Files (StateM σ)) :
    (∀ digest d s u, Layout.isDigest digest = true →
      (answer (l.resolve files digest) s = (.ok d, u) ↔ l.Resolves files digest d s u)) ∧
    (∀ digest d index s t u, Layout.isDigest digest = true →
      answer (l.index files) s = (.ok index, t) →
      (∀ entry ∈ index.manifests, entry.digest ≠ digest) →
      answer (l.resolve files digest) s = (.ok d, u) →
      ∃ content, l.Stores files digest content t u ∧ d.size = UInt64.ofNat content.size) ∧
    (∀ request artifact verifier s u written,
      (verify request artifact (l.repository files) verifier).run s = ((written, .ok ()), u) →
      ∃ d s₁ digest target s₂ outcome,
        answer (l.resolve files artifact.selector.text) s = (.ok d, s₁) ∧
        written = referenceWarning artifact ++ outcomeReport (artifact.resolved d).text outcome ∧
        (cutLast? '@' (artifact.resolved d).text).map Prod.snd = some digest ∧
        target.digest = digest ∧ l.Resolves files digest target s₁ s₂ ∧
        ∀ index t, answer (l.index files) s₁ = (.ok index, t) →
          (∀ entry ∈ index.manifests, entry.digest ≠ digest) →
          ∃ content, l.Stores files digest content t s₂ ∧
            target.size = UInt64.ofNat content.size) := by
  refine ⟨fun digest d s u isDigest => Layout.resolve_eq_ok_iff isDigest, ?_, ?_⟩
  · intro digest d index s t u isDigest read unlisted resolves
    exact ((Layout.resolve_eq_ok_iff isDigest).mp resolves).stores read unlisted
  · intro request artifact verifier s u written runs
    obtain ⟨d, s₁, digest, target, s₂, outcome, first, report, atEnd, resolves⟩ :=
      resolves_of_success runs
    refine ⟨d, s₁, digest, target, s₂, outcome, first, report, atEnd, resolves.digest_eq,
      resolves, ?_⟩
    intro index t read unlisted
    exact resolves.stores read unlisted

def emptyHex : String := "44136fa355b3678a1146ad16f7e8649e94fb4fc21fe77e8310c060f61caaff8a"

/-- Files of an image layout that lists nothing and holds one manifest, of two bytes. -/
def unlistedFiles : Files (StateM Unit) where
  read path := ExceptT.mk <| pure <|
    if path = "layout/index.json" then .ok (Json.encode Index.empty)
    else if path = "layout/blobs/sha256/" ++ emptyHex then .ok "{}".toUTF8
    else .error .missing
  list _ := ExceptT.mk (pure (.error .missing))

def unlistedRequest : VerifyRequest := ⟨"layout@sha256:" ++ emptyHex, ∅, ∅, .layout, none⟩

def unlistedArtifact : Reference := ⟨"layout", .digest ("sha256:" ++ emptyHex)⟩

set_option maxRecDepth 100000 in
theorem unlistedFiles_verify :
    (verify unlistedRequest unlistedArtifact ((Layout.mk "layout").repository unlistedFiles)
        (mixedVerifier.withClock (pure KeyVerifier.sampleNow))).run () =
      ((.outLine (skipStart ++ "layout@sha256:" ++ emptyHex), .ok ()), ()) := by
  refine Prod.ext ?_ (Subsingleton.elim _ _)
  decide +kernel

set_option maxRecDepth 100000 in
/-- A run succeeds, and the content that it reports is in its file. -/
theorem present_unless_listed_unlisted :
    ∃ digest content, (Layout.mk "layout").Stores unlistedFiles digest content () () := by
  obtain ⟨-, -, present⟩ := present_unless_listed (Layout.mk "layout") unlistedFiles
  obtain ⟨d, s₁, digest, target, s₂, outcome, -, -, -, -, -, stores⟩ :=
    present _ _ _ _ _ _ unlistedFiles_verify
  have read : answer ((Layout.mk "layout").index unlistedFiles) () = (.ok Index.empty, ()) := by
    refine Prod.ext ?_ (Subsingleton.elim _ _)
    decide +kernel
  obtain ⟨content, stored, -⟩ := stores _ _ read (fun entry mem => by cases mem)
  exact ⟨digest, content, stored⟩

set_option maxRecDepth 100000 in
/-- The digest of an artifact is listed and the artifact itself is not there. It is resolved all
the same, and the run that verifies it succeeds. -/
theorem verified_without_content :
    Digest.WellFormed Verifier.sampleDigest ∧
      (answer ((Layout.mk "layout").resolve signedFiles Verifier.sampleDigest) ()).1 =
        .ok signedTarget ∧
      (∀ algorithm encoded, Digest.parse Verifier.sampleDigest = .ok (algorithm, encoded) →
        (answer (signedFiles.read ((Layout.mk "layout").blobPath algorithm encoded)) ()).1 =
          .error .missing) ∧
      (verify turnedRequest turnedArtifact ((Layout.mk "layout").repository signedFiles)
          (auditVerifier.withClock (pure KeyVerifier.sampleNow))).run () =
        ((auditTranscript, .ok ()), ()) := by
  have parsed : Digest.parse Verifier.sampleDigest =
      .ok (.sha256, String.ofList (List.replicate 64 'a')) := by decide +kernel
  refine ⟨⟨_, parsed⟩, by decide +kernel, ?_, signedRepository_verify⟩
  intro algorithm encoded own
  cases parsed.symm.trans own
  decide +kernel

end ArtifactTrust.Command
