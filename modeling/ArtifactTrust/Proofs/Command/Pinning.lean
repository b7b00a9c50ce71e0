import ArtifactTrust.Command.Verify
import ArtifactTrust.Proofs.Command.Governance
import ArtifactTrust.Proofs.Command.Lines

/-!
# What a report of success stands for

The digest goes from the repository's first answer into a text, into the options and back to the
repository. A report of success is about the digest that was verified.
-/

namespace ArtifactTrust

set_option autoImplicit false

open Text

/-- The digest that a verification is about stands behind the last at sign of its reference. -/
theorem VerifyOptions.digest_eq_ok_iff {o : VerifyOptions} {digest : String} :
    o.digest = .ok digest ↔
      (cutLast? '@' o.reference).map Prod.snd = some digest ∧ Digest.WellFormed digest := by
  unfold VerifyOptions.digest
  cases cutLast? '@' o.reference with
  | none => simp
  | some sides =>
    obtain ⟨scope, found⟩ := sides
    simp only [Option.map_some, Option.some.injEq]
    constructor
    · intro h
      cases valid : Digest.validate found with
      | error fault =>
        rw [valid] at h
        cases h
      | ok parts =>
        rw [valid] at h
        cases h
        exact ⟨rfl, Digest.wellFormed_of_validate valid⟩
    · rintro ⟨rfl, wellFormed⟩
      obtain ⟨parts, valid⟩ := wellFormed.validates
      rw [valid]

namespace Command

variable {σ : Type} {request : VerifyRequest} {artifact : Reference}
  {repository : Repository (StateM σ)} {v : KeyVerifier} {clock : StateM σ Time.Instant} {s t : σ}

/-! ### Reports -/

def successStart : String := "Successfully verified signature for "

def skipStart : String := "Trust policy is configured to skip signature verification for "

@[simp] theorem Transcript.append_out (a b : Transcript) : (a ++ b).out = a.out ++ b.out := rfl

theorem outcomeReport_out (reference : String) (o : Outcome) :
    (outcomeReport reference o).out =
      if o.level = .skip then skipStart ++ reference ++ "\n"
      else successStart ++ reference ++ "\n" ++ (metadataReport o).out := by
  have silent : (Transcript.concat (o.results.map failureWarning)).out = "" := by
    rw [concat_failureWarnings]
    rfl
  unfold outcomeReport
  by_cases h : o.level = .skip
  · simp only [h, if_true, Transcript.append_out, silent, String.empty_append]
    rfl
  · simp only [h, if_false, Transcript.append_out, silent, String.empty_append]
    rfl

theorem level_of_success {reference rest : String} {o : Outcome}
    (success : (outcomeReport reference o).out = successStart ++ rest) : o.level ≠ .skip := by
  intro skips
  rw [outcomeReport_out, if_pos skips, String.append_assoc] at success
  revert success
  exact append_ne_append_of_head? (c := 'T') (d := 'S') rfl rfl (by decide)

theorem conclude_eq_ok {written t : Transcript} {reference : String}
    {result : Except VerificationError (Descriptor × List Outcome)}
    (h : conclude written reference result = (t, .ok ())) :
    ∃ target outcome rest, result = .ok (target, outcome :: rest) ∧
      t = written ++ outcomeReport reference outcome := by
  unfold conclude at h
  cases result with
  | error cause =>
    cases hr : cause.isRejection with
    | true => simp [Except.map, settled, hr] at h
    | false => simp [Except.map, settled, hr] at h
  | ok found =>
    obtain ⟨target, outcomes⟩ := found
    cases outcomes with
    | nil => simp [Except.map, settled] at h
    | cons outcome rest =>
      simp only [Except.map, settled, report, Prod.mk.injEq, and_true] at h
      exact ⟨target, outcome, rest, rfl, h.symm⟩

theorem referenceWarning_out (artifact : Reference) : (referenceWarning artifact).out = "" := by
  rw [referenceWarning_eq_ofLines]
  rfl

/-! ### Runs -/

theorem options_reference (request : VerifyRequest) (artifact : Reference) (d : Descriptor) :
    ∃ scope, (request.options (artifact.resolved d)).reference = scope ++ "@" ++ d.digest := by
  unfold VerifyRequest.options Resolved.intended
  cases request.scope with
  | none => exact ⟨artifact.locator, rfl⟩
  | some scope =>
    by_cases empty : scope.isEmpty
    · exact ⟨artifact.locator, if_pos empty⟩
    · exact ⟨scope, if_neg empty⟩

theorem options_digest_eq_ok_iff {d : Descriptor} {digest : String} :
    (request.options (artifact.resolved d)).digest = .ok digest ↔
      (cutLast? '@' (artifact.resolved d).text).map Prod.snd = some digest ∧
        Digest.WellFormed digest := by
  obtain ⟨scope, reference⟩ := options_reference request artifact d
  rw [VerifyOptions.digest_eq_ok_iff, reference]
  have same := cutLast?_glued_snd '@' scope artifact.locator d.digest
  change (cutLast? '@' (scope ++ "@" ++ d.digest)).map Prod.snd =
    (cutLast? '@' (artifact.resolved d).text).map Prod.snd at same
  rw [same]

theorem verify_of_withClock {target : Descriptor} {document : ByteArray} {options : VerifyOptions}
    {outcome : Outcome}
    (verified : answer ((v.withClock clock).verify target document options) s = (.ok outcome, t)) :
    ∃ now, v.verify now target document options = .ok outcome := by
  unfold KeyVerifier.withClock at verified
  rw [answer_mk, StateT.run_bind] at verified
  exact ⟨(StateT.run clock s).1, congrArg Prod.fst verified⟩

/-- What the report of a success stands for: the digest that ends the reference is that of the
artifact which was verified, and an envelope from the repository was accepted whose payload is
about this very content. -/
structure Pinned (v : KeyVerifier) (clock : StateM σ Time.Instant)
    (repository : Repository (StateM σ)) (options : VerifyOptions) (reference digest : String)
    (target : Descriptor) (outcome : Outcome) : Prop where
  atEnd : (cutLast? '@' reference).map Prod.snd = some digest
  wellFormed : Digest.WellFormed digest
  ofTarget : target.digest = digest
  accepted : ∃ document now o,
    Verifier.Accepted (v.withClock clock) repository options target document outcome ∧
    v.verify now target document options = .ok outcome ∧
    Envelope.IsFor target document o ∧ outcome.payload = some o.payload ∧
    o.payload.target.digest = digest ∧ o.payload.target.size = target.size ∧
    o.payload.target.mediaType = target.mediaType

theorem pinned_of_accepted {d target : Descriptor} {digest : String} {outcome : Outcome}
    {document : ByteArray} (provided : repository.Provided)
    (pinned : (request.options (artifact.resolved d)).digest = .ok digest)
    (resolves : answer (repository.resolve digest) s = (.ok target, t))
    (accepted : Verifier.Accepted (v.withClock clock) repository
      (request.options (artifact.resolved d)) target document outcome)
    (judged : outcome.level ≠ .skip) :
    Pinned v clock repository (request.options (artifact.resolved d)) (artifact.resolved d).text
      digest target outcome := by
  obtain ⟨atEnd, wellFormed⟩ := options_digest_eq_ok_iff.mp pinned
  have ofTarget := provided.digest_of_resolve wellFormed resolves
  have ⟨layer, s₁, s₂, s₃, _, answered⟩ := accepted
  obtain ⟨now, verified⟩ := verify_of_withClock answered
  obtain ⟨statement, o, -, -, accepts, payload⟩ := KeyVerifier.accepts_of_verify verified judged
  have isFor := accepts.isFor
  exact ⟨atEnd, wellFormed, ofTarget, document, now, o, accepted, verified, isFor, payload,
    isFor.digest.trans ofTarget, isFor.size, isFor.mediaType⟩

/-- A report of success names the digest that was verified. The artifact is what the repository
makes of the digest that it answered first, and a reference by digest is reported with its own
locator and digest, without the tag that may stand between them. -/
theorem pinned_of_success {source : Source} {text : String}
    (parsed : Reference.parse source text = .ok artifact) (provided : repository.Provided)
    {written : Transcript}
    (runs : (verify request artifact repository (v.withClock clock)).run s =
      ((written, .ok ()), t))
    (success : ∃ rest, written.out = successStart ++ rest) :
    ∃ d s₁ digest target s₂ outcome,
      answer (repository.resolve artifact.selector.text) s = (.ok d, s₁) ∧
      answer (repository.resolve digest) s₁ = (.ok target, s₂) ∧
      let reference := artifact.locator ++ "@" ++ d.digest
      written.out = successStart ++ reference ++ "\n" ++ (metadataReport outcome).out ∧
      Pinned v clock repository (request.options (artifact.resolved d)) reference digest target
        outcome ∧
      ∀ named, artifact.selector = .digest named →
        reference = artifact.locator ++ "@" ++ named ∧
        (String.ofList (trim text.toList) = artifact.locator ++ "@" ++ named ∨
          ∃ tag, String.ofList (trim text.toList) =
            artifact.locator ++ ":" ++ tag ++ "@" ++ named) := by
  rw [verify_run] at runs
  rcases hr : answer (repository.resolve artifact.selector.text) s with ⟨r, s₁⟩
  rw [hr] at runs
  cases r with
  | error cause => cases runs
  | ok d =>
    simp only at runs
    rcases hv : answer ((v.withClock clock).run repository
      (request.options (artifact.resolved d))) s₁ with ⟨result, u⟩
    rw [hv] at runs
    obtain ⟨target, outcome, rest, rfl, rfl⟩ := conclude_eq_ok (congrArg Prod.fst runs)
    obtain ⟨digest, s₂, pinned, resolves, ended⟩ := Verifier.accepted_of_run hv
    rw [Transcript.append_out, referenceWarning_out, String.empty_append] at success
    obtain ⟨tail, success⟩ := success
    have judged := level_of_success success
    have report := outcomeReport_out (artifact.resolved d).text outcome
    rw [if_neg judged] at report
    refine ⟨d, s₁, digest, target, s₂, outcome, rfl, resolves, ?_, ?_, ?_⟩
    · rw [Transcript.append_out, referenceWarning_out, String.empty_append, report]
      rfl
    · rcases ended with skipped | ⟨own, document, same, accepted⟩
      · cases skipped
        exact absurd rfl judged
      · cases same
        exact pinned_of_accepted provided pinned resolves accepted judged
    · intro named byDigest
      obtain ⟨wellFormed, writtenAs⟩ := Reference.of_parse_digest parsed byDigest
      rw [byDigest] at hr
      exact ⟨by rw [provided.digest_of_resolve wellFormed hr], writtenAs⟩

def signedTarget : Descriptor := indexEntry Verifier.sampleDigest none

/-- An envelope about the artifact, by a key that nobody trusts. -/
def loggedEnvelope : ByteArray :=
  Json.encode
    (⟨MediaType.payload,
      Base64.encoded
        (Json.encode (⟨signedTarget, KeyVerifier.sampleNow, none⟩ : Payload)).data.toList,
      [⟨"k", ""⟩]⟩ : Envelope)

def envelopeHex : String := "c7f5699d826c8f75bd4b6afd189aa7f56a65f91f0a295ae63ee4e4705c9c0986"

def signatureManifest : ByteArray :=
  Json.encode
    (⟨2, none, none, ⟨MediaType.signature, "d", 0, none, none⟩,
      [⟨MediaType.envelope, "sha256:" ++ envelopeHex, 1, none, none⟩], some signedTarget, none⟩
      : Manifest)

def manifestHex : String := "9b8f942df86b7b19276c76df741979c2a555b0c2f6aa19b4fcec5704471e868b"

/-- Files of an image layout with the artifact under the tag `v1` and its signature. -/
def signedFiles : Files (StateM Unit) where
  read path := ExceptT.mk <| pure <|
    if path = "layout/index.json" then
      .ok (Json.encode
        { Index.empty with
          manifests :=
            [indexEntry Verifier.sampleDigest (some (.ofList [(Layout.tagAnnotation, "v1")])),
              ⟨MediaType.imageManifest, "sha256:" ++ manifestHex, 1, none, none⟩] })
    else if path = "layout/blobs/sha256/" ++ manifestHex then .ok signatureManifest
    else if path = "layout/blobs/sha256/" ++ envelopeHex then .ok loggedEnvelope
    else .error .missing
  list _ := ExceptT.mk (pure (.error .missing))

def signedRepository : Repository (StateM Unit) := (Layout.mk "layout").repository signedFiles

def auditVerifier : KeyVerifier :=
  ⟨⟨"1.0", [⟨"app", ["local/app"], .audit, .empty, ["team"]⟩]⟩, .empty⟩

def auditTranscript : Transcript where
  out := successStart ++ ("layout@" ++ Verifier.sampleDigest ++ "\n")
  err := (tagWarning "v1").err ++ "Warning: authenticity was set to \"log\" and failed with " ++
    "error: key k is not in a trusted store\n"

set_option maxRecDepth 100000 in
theorem signedRepository_verify :
    (verify turnedRequest turnedArtifact signedRepository
        (auditVerifier.withClock (pure KeyVerifier.sampleNow))).run () =
      ((auditTranscript, .ok ()), ()) := by
  refine Prod.ext ?_ (Subsingleton.elim _ _)
  decide +kernel

/-- A tag that was verified stands for the digest in the report. -/
theorem pinned_of_success_audit :
    ∃ options reference digest target outcome,
      Pinned auditVerifier (pure KeyVerifier.sampleNow) signedRepository options reference digest
        target outcome := by
  obtain ⟨d, s₁, digest, target, s₂, outcome, -, -, -, pinned, -⟩ :=
    pinned_of_success turnedArtifact_parsed (.layout (Layout.mk "layout") signedFiles)
      signedRepository_verify ⟨_, rfl⟩
  exact ⟨_, _, digest, target, outcome, pinned⟩

end Command

end ArtifactTrust
