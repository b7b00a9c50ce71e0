import ArtifactTrust.Command.Verify
import ArtifactTrust.Proofs.Policy.Rules
import ArtifactTrust.Proofs.Reference
import ArtifactTrust.Proofs.Repository.Resolution
import ArtifactTrust.Proofs.Verification.Acceptance
import ArtifactTrust.Proofs.Verification.Run

/-!
# Which statement governs a verification

The policy is looked up under a text into which the repository's answer has been glued. A resolved
digest that holds an at sign turns the lookup to the wildcard; nothing else does.
-/

namespace ArtifactTrust

set_option autoImplicit false

open Text

variable {σ : Type}

namespace Command

/-- Both sides of a run of the command, as `Verifier.Runs` are those of the verification. -/
structure Runs (request : VerifyRequest) (artifact : Reference) (repository : Repository (StateM σ))
    (verifier : Verifier (StateM σ)) (s : σ) (calls : List Call)
    (r : Transcript × Except Failure Unit) (t : σ) : Prop where
  answers : (verify request artifact repository verifier).run s = (r, t)
  records : ∀ before,
    (verify request artifact repository.recorded verifier.recorded).run (before, s) =
      (r, (before ++ calls, t))

variable {request : VerifyRequest} {artifact : Reference} {repository : Repository (StateM σ)}
  {verifier : Verifier (StateM σ)} {s s₁ t : σ}

theorem verify_run (request : VerifyRequest) (artifact : Reference)
    (repository : Repository (StateM σ)) (verifier : Verifier (StateM σ)) (s : σ) :
    (verify request artifact repository verifier).run s =
      match answer (repository.resolve artifact.selector.text) s with
      | (.error cause, t) => ((.empty, .error (.repository cause)), t)
      | (.ok d, t) =>
        let resolved := artifact.resolved d
        let (r, u) := answer (verifier.run repository (request.options resolved)) t
        (conclude (referenceWarning artifact) resolved.text r, u) := by
  have resolve : answer (artifact.resolve repository) s =
      match answer (repository.resolve artifact.selector.text) s with
      | (.error cause, t) => (.error cause, t)
      | (.ok d, t) => (.ok (d, artifact.resolved d), t) := by
    unfold Reference.resolve
    rw [answer_bind]
    rcases answer (repository.resolve artifact.selector.text) s with ⟨r, t⟩
    cases r with
    | ok d => rfl
    | error cause => rfl
  unfold answer at resolve
  unfold verify answer
  rw [StateT.run_bind, resolve]
  rcases StateT.run (repository.resolve artifact.selector.text).run s with ⟨r, t⟩
  cases r with
  | ok d => rfl
  | error cause => rfl

theorem runs_of_resolve_error {cause : RepositoryError}
    (fails : answer (repository.resolve artifact.selector.text) s = (.error cause, t)) :
    Runs request artifact repository verifier s [.resolve artifact.selector.text]
      (.empty, .error (.repository cause)) t := by
  have noted := Goes.noted (.resolve artifact.selector.text) fails
  refine ⟨?_, fun before => ?_⟩
  · rw [verify_run, noted.answers]
  · rw [verify_run]
    have := noted.records before
    change answer (repository.recorded.resolve artifact.selector.text) (before, s) = _ at this
    rw [this]

theorem runs_of_resolved {d : Descriptor} {calls : List Call}
    {r : Except VerificationError (Descriptor × List Outcome)}
    (resolves : answer (repository.resolve artifact.selector.text) s = (.ok d, s₁))
    (runs : Verifier.Runs verifier repository (request.options (artifact.resolved d)) s₁ calls r
      t) :
    Runs request artifact repository verifier s (.resolve artifact.selector.text :: calls)
      (conclude (referenceWarning artifact) (artifact.resolved d).text r) t := by
  have noted := Goes.noted (.resolve artifact.selector.text) resolves
  refine ⟨?_, fun before => ?_⟩
  · rw [verify_run, noted.answers]
    simp only [runs.answers]
  · rw [verify_run]
    have := noted.records before
    change answer (repository.recorded.resolve artifact.selector.text) (before, s) = _ at this
    rw [this]
    simp only [runs.records, List.append_assoc, List.singleton_append]

theorem exists_runs (request : VerifyRequest) (artifact : Reference)
    (repository : Repository (StateM σ)) (verifier : Verifier (StateM σ)) (s : σ) :
    ∃ calls r t, Runs request artifact repository verifier s calls r t ∧
      ∀ call ∈ calls, ∀ options, call.options? = some options →
        ∃ d u, answer (repository.resolve artifact.selector.text) s = (.ok d, u) ∧
          options = request.options (artifact.resolved d) := by
  rcases hr : answer (repository.resolve artifact.selector.text) s with ⟨r, s₁⟩
  cases r with
  | error cause =>
    refine ⟨_, _, _, runs_of_resolve_error hr, ?_⟩
    intro call mem options asked
    rw [List.mem_singleton.mp mem] at asked
    cases asked
  | ok d =>
    obtain ⟨calls, r, t, runs, bounded⟩ :=
      Verifier.exists_runs verifier repository (request.options (artifact.resolved d)) s₁
    refine ⟨_, _, _, runs_of_resolved hr runs, ?_⟩
    intro call mem options asked
    rcases List.mem_cons.mp mem with rfl | mem
    · cases asked
    · exact ⟨d, s₁, rfl, bounded.asks call mem options asked⟩

/-- An artifact that was asked for, with the scope whose statement is to govern it: the locator
in a registry, what is given in place of it for an image layout. -/
inductive Asked (request : VerifyRequest) : Reference → String → Prop
  | registry {text : String} {artifact : Reference}
      (parsed : Reference.parse .registry text = .ok artifact) (unscoped : request.scope = none) :
      Asked request artifact artifact.locator
  | layout {text scope : String} {artifact : Reference}
      (parsed : Reference.parse .layout text = .ok artifact)
      (given : request.scope = some scope) (nonempty : scope ≠ "") :
      Asked request artifact scope

variable {scope : String}

theorem Asked.reference_eq (asked : Asked request artifact scope) (d : Descriptor) :
    (request.options (artifact.resolved d)).reference = scope ++ "@" ++ d.digest := by
  cases asked with
  | registry parsed unscoped =>
    unfold VerifyRequest.options
    rw [unscoped]
    rfl
  | layout parsed given nonempty =>
    have filled : ¬ scope.isEmpty := by simpa using nonempty
    unfold VerifyRequest.options Resolved.intended
    rw [given]
    exact if_neg filled

theorem Asked.wellFormed (asked : Asked request artifact scope) {digest : String}
    (byDigest : artifact.selector = .digest digest) : Digest.WellFormed digest := by
  cases asked with
  | registry parsed => exact (Reference.of_parse_digest parsed byDigest).1
  | layout parsed => exact (Reference.of_parse_digest parsed byDigest).1

/-- The statement that every lookup of a run finds, under a policy that keeps the rules. It is the
one for the scope that was asked for exactly if the digest from the repository holds no at sign or
the scope has no statement of its own; otherwise the lookup falls through to the wildcard. The
repository has this choice for tags only. -/
theorem lookup_result {v : KeyVerifier} (valid : v.policy.check = .ok ())
    (asked : Asked request artifact scope) (repository : Repository (StateM σ))
    (clock : StateM σ Time.Instant) (s : σ) :
    ∃ calls r t, Runs request artifact repository (v.withClock clock) s calls r t ∧
      ∀ call ∈ calls, ∀ options, call.options? = some options →
        ∃ d u, answer (repository.resolve artifact.selector.text) s = (.ok d, u) ∧
          v.policy.statement? options.reference =
            (if '@' ∈ d.digest.toList then v.policy.statements.find? Statement.isWildcard
              else v.policy.governing? scope) ∧
          (v.policy.statement? options.reference = v.policy.governing? scope ↔
            ('@' ∈ d.digest.toList →
              scope = Statement.wildcard ∨ ∀ x ∈ v.policy.statements, scope ∉ x.scopes)) ∧
          (∀ digest, artifact.selector = .digest digest → repository.Provided →
            '@' ∉ d.digest.toList) := by
  obtain ⟨calls, r, t, runs, asks⟩ :=
    exists_runs request artifact repository (v.withClock clock) s
  refine ⟨calls, r, t, runs, ?_⟩
  intro call mem options looks
  obtain ⟨d, u, resolves, rfl⟩ := asks call mem options looks
  have found := Policy.statement?_glued valid scope d.digest
  rw [← asked.reference_eq d] at found
  refine ⟨d, u, resolves, found, ?_, ?_⟩
  · rw [found, ← Policy.wildcard_eq_governing?_iff valid]
    by_cases h : '@' ∈ d.digest.toList
    · simp only [h, if_true, true_implies]
    · simp only [h, if_false, false_implies]
  · intro digest byDigest provided
    rw [byDigest] at resolves
    have wellFormed := asked.wellFormed byDigest
    rw [provided.digest_of_resolve wellFormed resolves]
    exact wellFormed.at_notMem

def mixedPolicy : Policy where
  version := "1.0"
  statements :=
    [⟨"app", ["local/app"], .strict, .empty, ["team"]⟩, ⟨"rest", ["*"], .skip, .empty, []⟩]

def indexEntry (digest : String) (annotations : Option Labels) : Descriptor :=
  ⟨"m", digest, 1, none, annotations⟩

/-- Files of an image layout whose tag `v1` has a digest with an at sign. -/
def turnedFiles : Files (StateM Unit) where
  read path := ExceptT.mk <| pure <|
    if path = "layout/index.json" then
      .ok (Json.encode
        { Index.empty with
          manifests :=
            [indexEntry ("x@" ++ Verifier.sampleDigest)
                (some (.ofList [(Layout.tagAnnotation, "v1")])),
              indexEntry Verifier.sampleDigest none] })
    else .error .missing
  list _ := ExceptT.mk (pure (.error .missing))

def turnedRepository : Repository (StateM Unit) := (Layout.mk "layout").repository turnedFiles

def turnedRequest : VerifyRequest := ⟨"layout:v1", ∅, ∅, .layout, some "local/app"⟩

def turnedArtifact : Reference := ⟨"layout", .tag "v1"⟩

def mixedVerifier : KeyVerifier := ⟨mixedPolicy, .empty⟩

theorem mixedPolicy_check : mixedPolicy.check = .ok () := by decide +kernel

theorem turnedArtifact_parsed : Reference.parse .layout "layout:v1" = .ok turnedArtifact := by
  decide +kernel

theorem turnedArtifact_asked : Asked turnedRequest turnedArtifact "local/app" :=
  .layout turnedArtifact_parsed rfl (by decide)

set_option maxRecDepth 100000 in
theorem turnedRepository_resolve :
    (answer (turnedRepository.resolve "v1") ()).1 =
      .ok (indexEntry ("x@" ++ Verifier.sampleDigest) none) := by
  decide +kernel

theorem lookup_result_turned :
    ∃ calls r t, Runs turnedRequest turnedArtifact turnedRepository
        (mixedVerifier.withClock (pure KeyVerifier.sampleNow)) () calls r t ∧
      ∀ call ∈ calls, ∀ options, call.options? = some options →
        (mixedPolicy.statement? options.reference).map Statement.level = some .skip := by
  obtain ⟨calls, r, t, runs, finds⟩ := lookup_result (v := mixedVerifier)
    mixedPolicy_check turnedArtifact_asked turnedRepository (pure KeyVerifier.sampleNow) ()
  refine ⟨calls, r, t, runs, ?_⟩
  intro call mem options looks
  obtain ⟨d, u, resolves, found, -⟩ := finds call mem options looks
  have same := congrArg Prod.fst resolves
  rw [show turnedArtifact.selector.text = "v1" from rfl, turnedRepository_resolve] at same
  cases same
  have holds : '@' ∈ (indexEntry ("x@" ++ Verifier.sampleDigest) none).digest.toList := by
    decide +kernel
  rw [if_pos holds] at found
  change (mixedVerifier.policy.statement? options.reference).map Statement.level = _
  rw [found]
  rfl

set_option maxRecDepth 100000 in
/-- The scope has a strict statement of its own, and yet verification is skipped. -/
theorem skipped_under_strict :
    mixedPolicy.check = .ok () ∧ Asked turnedRequest turnedArtifact "local/app" ∧
      (mixedPolicy.governing? "local/app").map Statement.level = some .strict ∧
      ((verify turnedRequest turnedArtifact turnedRepository
          (mixedVerifier.withClock (pure KeyVerifier.sampleNow))).run ()).1 =
        (⟨"Trust policy is configured to skip signature verification for layout@x@" ++
            Verifier.sampleDigest ++ "\n", (tagWarning "v1").err⟩, .ok ()) := by
  refine ⟨mixedPolicy_check, turnedArtifact_asked, by decide +kernel, ?_⟩
  decide +kernel

end Command

end ArtifactTrust
