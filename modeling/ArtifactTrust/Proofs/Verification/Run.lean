import ArtifactTrust.Proofs.Text.Cut
import ArtifactTrust.Proofs.Verification.Search

/-!
# The result of a verification

What a verification answers and which calls it makes, for each of its exits. The verifier judges at
most as many envelopes as the options allow.
-/

namespace ArtifactTrust

set_option autoImplicit false

open Text

theorem NoSignature.limit_message_ne (attempts : Nat) (reference : String) :
    (limit attempts).message ≠ (allRejected reference).message := by
  unfold message
  simp only [String.append_assoc]
  apply append_ne_append_of_head? (c := 's') (d := 'n')
  · decide
  · decide
  · decide

namespace Verifier

variable {σ : Type} {verifier : Verifier (StateM σ)} {repository : Repository (StateM σ)}
  {options : VerifyOptions} {digest : String} {target : Descriptor}
  {signatures : List Descriptor} {s s₁ s₂ s₃ t : σ}

theorem exhausted_message_eq_limit_iff (options : VerifyOptions) (limit found : Nat) :
    (exhausted options limit found).message = (NoSignature.limit options.maxAttempts).message ↔
      limit < found := by
  unfold exhausted
  by_cases h : limit < found
  · simp only [h, if_true]
  · simp only [h, if_false, iff_false]
    exact (NoSignature.limit_message_ne _ _).symm

section Exits

variable {m : Type → Type} [Monad m]

/-- What is left of a verification once the signatures are listed. -/
def settleListed (v : Verifier m) (r : Repository m) (options : VerifyOptions)
    (target : Descriptor) (signatures : List Descriptor) :
    ExceptT VerificationError m (Descriptor × List Outcome) := do
  if signatures.isEmpty then
    throw (.rejected (NoSignature.unsigned options.reference).message)
  let outcome ← v.search r options target options.maxAttempts signatures
  return (target, [outcome])

/-- What is left of a verification once it is known not to be skipped. -/
def settleUnskipped (v : Verifier m) (r : Repository m) (options : VerifyOptions)
    (target : Descriptor) : ExceptT VerificationError m (Descriptor × List Outcome) := do
  if options.maxAttempts = 0 then
    throw (.config "max_signature_attempts must be greater than 0")
  let signatures ← asking (r.listSignatures target)
  v.settleListed r options target signatures

/-- What is left of a verification once the artifact is found. -/
def settleResolved (v : Verifier m) (r : Repository m) (options : VerifyOptions)
    (target : Descriptor) : ExceptT VerificationError m (Descriptor × List Outcome) := do
  if (← v.skipLevel options).isSome then return (target, [.skipped])
  v.settleUnskipped r options target

theorem run_eq (v : Verifier m) (r : Repository m) (options : VerifyOptions) :
    v.run r options = (do
      let digest ← ExceptT.mk (pure options.digest)
      let target ← asking (r.resolve digest)
      v.settleResolved r options target) := rfl

end Exits

theorem runs_of_not_pinned {cause : VerificationError} (h : options.digest = .error cause)
    (s : σ) : Runs verifier repository options s [] (.error cause) s := by
  unfold Runs
  rw [run_eq, run_eq, h]
  exact Goes.bind_error _ _ (Goes.pure (.error cause) s)

theorem runs_of_resolve_error {cause : RepositoryError} (pinned : options.digest = .ok digest)
    (fails : answer (repository.resolve digest) s = (.error cause, t)) :
    Runs verifier repository options s [.resolve digest] (.error (.repository cause)) t := by
  unfold Runs
  rw [run_eq, run_eq, pinned]
  refine Goes.bind (c := []) (Goes.pure (.ok digest) s) ?_
  exact (Goes.noted (.resolve digest) fails).asking.bind_error _ _

theorem runs_of_resolved {calls : List Call}
    {r : Except VerificationError (Descriptor × List Outcome)}
    (pinned : options.digest = .ok digest)
    (resolves : answer (repository.resolve digest) s = (.ok target, s₁))
    (goes : Goes (verifier.settleResolved repository options target)
      (verifier.recorded.settleResolved repository.recorded options target) s₁ calls r t) :
    Runs verifier repository options s (.resolve digest :: calls) r t := by
  unfold Runs
  rw [run_eq, run_eq, pinned]
  refine Goes.bind (c := []) (Goes.pure (.ok digest) s) ?_
  exact (Goes.noted (.resolve digest) resolves).asking.bind goes

theorem goes_settleResolved_of_error {cause : VerificationError}
    (fails : answer (verifier.skipLevel options) s₁ = (.error cause, t)) :
    Goes (verifier.settleResolved repository options target)
      (verifier.recorded.settleResolved repository.recorded options target) s₁
      [.skipLevel options] (.error cause) t :=
  (Goes.noted (.skipLevel options) fails).bind_error _ _

theorem goes_settleResolved_of_skipped {level : Level}
    (skips : answer (verifier.skipLevel options) s₁ = (.ok (some level), s₂)) :
    Goes (verifier.settleResolved repository options target)
      (verifier.recorded.settleResolved repository.recorded options target) s₁
      [.skipLevel options] (.ok (target, [.skipped])) s₂ :=
  (Goes.noted (.skipLevel options) skips).bind (d := []) (Goes.pure _ s₂)

theorem goes_settleResolved_of_unskipped {calls : List Call}
    {r : Except VerificationError (Descriptor × List Outcome)}
    (unskipped : answer (verifier.skipLevel options) s₁ = (.ok none, s₂))
    (goes : Goes (verifier.settleUnskipped repository options target)
      (verifier.recorded.settleUnskipped repository.recorded options target) s₂ calls r t) :
    Goes (verifier.settleResolved repository options target)
      (verifier.recorded.settleResolved repository.recorded options target) s₁
      (.skipLevel options :: calls) r t :=
  (Goes.noted (.skipLevel options) unskipped).bind goes

theorem goes_settleUnskipped_of_no_attempts (barred : options.maxAttempts = 0) (s : σ) :
    Goes (verifier.settleUnskipped repository options target)
      (verifier.recorded.settleUnskipped repository.recorded options target) s []
      (.error (.config "max_signature_attempts must be greater than 0")) s := by
  unfold settleUnskipped
  simp only [barred, if_true]
  exact Goes.bind_error _ _ (Goes.pure (.error _) s)

theorem goes_settleUnskipped_of_error {cause : RepositoryError}
    (allowed : 0 < options.maxAttempts)
    (fails : answer (repository.listSignatures target) s₂ = (.error cause, t)) :
    Goes (verifier.settleUnskipped repository options target)
      (verifier.recorded.settleUnskipped repository.recorded options target) s₂
      [.listSignatures target] (.error (.repository cause)) t := by
  unfold settleUnskipped
  simp only [allowed.ne', if_false]
  exact (Goes.noted (.listSignatures target) fails).asking.bind_error _ _

theorem goes_settleUnskipped_of_listed {calls : List Call}
    {r : Except VerificationError (Descriptor × List Outcome)}
    (allowed : 0 < options.maxAttempts)
    (lists : answer (repository.listSignatures target) s₂ = (.ok signatures, s₃))
    (goes : Goes (verifier.settleListed repository options target signatures)
      (verifier.recorded.settleListed repository.recorded options target signatures) s₃ calls r t) :
    Goes (verifier.settleUnskipped repository options target)
      (verifier.recorded.settleUnskipped repository.recorded options target) s₂
      (.listSignatures target :: calls) r t := by
  unfold settleUnskipped
  simp only [allowed.ne', if_false]
  exact (Goes.noted (.listSignatures target) lists).asking.bind goes

theorem goes_settleListed_nil (s : σ) :
    Goes (verifier.settleListed repository options target [])
      (verifier.recorded.settleListed repository.recorded options target []) s []
      (.error (.rejected (NoSignature.unsigned options.reference).message)) s :=
  Goes.bind_error _ _ (Goes.pure (.error _) s)

theorem goes_settleListed_of_search {calls : List Call} {r : Except VerificationError Outcome}
    (signed : signatures ≠ [])
    (goes : Goes (verifier.search repository options target options.maxAttempts signatures)
      (verifier.recorded.search repository.recorded options target options.maxAttempts signatures)
      s calls r t) :
    Goes (verifier.settleListed repository options target signatures)
      (verifier.recorded.settleListed repository.recorded options target signatures) s calls
      (r.map fun outcome => (target, [outcome])) t := by
  unfold settleListed
  simp only [List.isEmpty_iff, signed, if_false]
  cases r with
  | ok outcome =>
    rw [← List.append_nil calls]
    exact goes.bind (Goes.pure _ t)
  | error cause => exact goes.bind_error _ _

/-- A verification that is not skipped succeeds with what its search finds. -/
theorem answer_run_eq_ok_iff {found : Descriptor} {outcomes : List Outcome}
    (pinned : options.digest = .ok digest)
    (resolves : answer (repository.resolve digest) s = (.ok target, s₁))
    (unskipped : answer (verifier.skipLevel options) s₁ = (.ok none, s₂))
    (lists : answer (repository.listSignatures target) s₂ = (.ok signatures, s₃)) :
    answer (verifier.run repository options) s = (.ok (found, outcomes), t) ↔
      found = target ∧ ∃ outcome, outcomes = [outcome] ∧
        answer (verifier.search repository options target options.maxAttempts signatures) s₃ =
          (.ok outcome, t) := by
  have opened {c q u} (goes : Goes (verifier.settleUnskipped repository options target)
      (verifier.recorded.settleUnskipped repository.recorded options target) s₂ c q u) :
      answer (verifier.run repository options) s = (q, u) :=
    (runs_of_resolved pinned resolves (goes_settleResolved_of_unskipped unskipped goes)).answers
  obtain ⟨c, q, u, goes, -⟩ := exists_goes_search verifier repository options target
    options.maxAttempts signatures s₃
  rcases Nat.eq_zero_or_pos options.maxAttempts with barred | allowed
  · rw [opened (goes_settleUnskipped_of_no_attempts barred s₂), barred]
    refine iff_of_false nofun ?_
    rintro ⟨-, outcome, -, found⟩
    cases signatures with
    | nil => cases found
    | cons signature rest => cases found
  by_cases signed : signatures = []
  · subst signed
    rw [opened (goes_settleUnskipped_of_listed allowed lists (goes_settleListed_nil s₃))]
    refine iff_of_false nofun ?_
    rintro ⟨-, outcome, -, found⟩
    rw [search] at found
    cases found
  rw [opened (goes_settleUnskipped_of_listed allowed lists
    (goes_settleListed_of_search signed goes)), goes.answers]
  cases q with
  | error cause => simp [Except.map]
  | ok outcome =>
    constructor
    · intro h
      cases h
      exact ⟨rfl, outcome, rfl, rfl⟩
    · rintro ⟨rfl, own, rfl, h⟩
      cases h
      rfl

/-! ### What is accepted -/

/-- An outcome is the verifier's own, for an envelope that the repository has just handed out. -/
def Accepted (verifier : Verifier (StateM σ)) (repository : Repository (StateM σ))
    (options : VerifyOptions) (target : Descriptor) (document : ByteArray) (outcome : Outcome) :
    Prop :=
  ∃ layer s t u, answer (repository.fetchBlob layer) s = (.ok document, t) ∧
    answer (verifier.verify target document options) t = (.ok outcome, u)

theorem accepted_of_attempt {signature : Descriptor} {outcome : Outcome}
    (accepts : answer (verifier.attempt repository options target signature) s =
      (.ok (some outcome), t)) :
    ∃ document, Accepted verifier repository options target document outcome := by
  unfold attempt at accepts
  obtain ⟨manifest, s₁, -, accepts⟩ := answer_bind_eq_ok_iff.mp accepts
  cases hl : manifest.layers.find? (·.mediaType = MediaType.envelope) with
  | none =>
    rw [hl] at accepts
    cases accepts
  | some layer =>
    simp only [hl] at accepts
    obtain ⟨document, u, fetched, accepts⟩ := answer_bind_eq_ok_iff.mp accepts
    obtain ⟨judged, w, hv, accepts⟩ := answer_bind_eq_ok_iff.mp accepts
    rw [answer_lift] at hv
    cases hv
    refine ⟨document, layer, s₁, u, t, answer_asking_eq_ok_iff.mp fetched, ?_⟩
    unfold answer
    rcases hr : StateT.run (verifier.verify target document options).run u with ⟨verdict, w⟩
    rw [hr] at accepts
    cases verdict with
    | ok found =>
      cases accepts
      rfl
    | error cause =>
      simp only at accepts
      split at accepts
      · cases accepts
      · cases accepts

theorem accepted_of_search {limit : Nat} {outcome : Outcome}
    (accepts : answer (verifier.search repository options target limit signatures) s =
      (.ok outcome, t)) :
    ∃ document, Accepted verifier repository options target document outcome := by
  induction signatures generalizing limit s with
  | nil =>
    unfold search at accepts
    cases accepts
  | cons signature rest ih =>
    cases limit with
    | zero => cases accepts
    | succ limit =>
      unfold search at accepts
      obtain ⟨found, s₁, attempted, accepts⟩ := answer_bind_eq_ok_iff.mp accepts
      cases found with
      | none => exact ih accepts
      | some own =>
        cases accepts
        exact accepted_of_attempt attempted

/-- How a run succeeds: it is skipped, or its search finds the only outcome. -/
theorem found_of_run {outcomes : List Outcome}
    (succeeds : answer (verifier.run repository options) s = (.ok (target, outcomes), t)) :
    ∃ digest s₁ level s₂, options.digest = .ok digest ∧
      answer (repository.resolve digest) s = (.ok target, s₁) ∧
      answer (verifier.skipLevel options) s₁ = (.ok level, s₂) ∧
      (level.isSome = true ∧ outcomes = [.skipped] ∨
        level = none ∧ ∃ signatures s₃ outcome, outcomes = [outcome] ∧
          answer (repository.listSignatures target) s₂ = (.ok signatures, s₃) ∧
          answer (verifier.search repository options target options.maxAttempts signatures) s₃ =
            (.ok outcome, t)) := by
  rw [run_eq] at succeeds
  obtain ⟨digest, s₀, known, succeeds⟩ := answer_bind_eq_ok_iff.mp succeeds
  obtain ⟨pinned, rfl⟩ := Prod.mk.inj ((answer_mk_pure options.digest s).symm.trans known)
  obtain ⟨found, s₁, resolved, succeeds⟩ := answer_bind_eq_ok_iff.mp succeeds
  have resolves := answer_asking_eq_ok_iff.mp resolved
  unfold settleResolved at succeeds
  obtain ⟨level, s₂, asked, succeeds⟩ := answer_bind_eq_ok_iff.mp succeeds
  cases level with
  | some level =>
    cases succeeds
    exact ⟨digest, s₁, some level, _, pinned, resolves, asked, .inl ⟨rfl, rfl⟩⟩
  | none =>
    simp only [Option.isSome_none, Bool.false_eq_true, if_false] at succeeds
    unfold settleUnskipped at succeeds
    by_cases barred : options.maxAttempts = 0
    · simp only [barred, if_true] at succeeds
      cases succeeds
    simp only [barred, if_false] at succeeds
    obtain ⟨signatures, s₃, listed, succeeds⟩ := answer_bind_eq_ok_iff.mp succeeds
    unfold settleListed at succeeds
    by_cases unsigned : signatures.isEmpty
    · simp only [unsigned, if_true] at succeeds
      cases succeeds
    simp only [unsigned] at succeeds
    obtain ⟨outcome, s₄, accepts, succeeds⟩ := answer_bind_eq_ok_iff.mp succeeds
    cases succeeds
    exact ⟨digest, s₁, none, s₂, pinned, resolves, asked, .inr ⟨rfl, signatures, s₃, outcome, rfl,
      answer_asking_eq_ok_iff.mp listed, accepts⟩⟩

/-- A successful run: the artifact is what the digest resolves to first of all, and the only
outcome is that of a skipped verification or of an accepted envelope. -/
theorem accepted_of_run {outcomes : List Outcome}
    (succeeds : answer (verifier.run repository options) s = (.ok (target, outcomes), t)) :
    ∃ digest s₁, options.digest = .ok digest ∧
      answer (repository.resolve digest) s = (.ok target, s₁) ∧
      (outcomes = [.skipped] ∨ ∃ outcome document, outcomes = [outcome] ∧
        Accepted verifier repository options target document outcome) := by
  obtain ⟨digest, s₁, level, s₂, pinned, resolves, -, ended⟩ := found_of_run succeeds
  refine ⟨digest, s₁, pinned, resolves, ?_⟩
  rcases ended with ⟨-, skipped⟩ | ⟨-, signatures, s₃, outcome, only, -, accepts⟩
  · exact .inl skipped
  · obtain ⟨document, accepted⟩ := accepted_of_search accepts
    exact .inr ⟨outcome, document, only, accepted⟩

/-! ### The result -/

theorem exists_runs (verifier : Verifier (StateM σ)) (repository : Repository (StateM σ))
    (options : VerifyOptions) (s : σ) :
    ∃ calls r t, Runs verifier repository options s calls r t ∧
      Bounded options options.maxAttempts calls := by
  have asks {calls : List Call} (unasked : calls.countP Call.isVerify = 0)
      (h : ∀ call ∈ calls, ∀ asked, call.options? = some asked → asked = options) :
      Bounded options options.maxAttempts calls := ⟨unasked ▸ Nat.zero_le _, h⟩
  rcases hd : options.digest with cause | digest
  · exact ⟨_, _, _, runs_of_not_pinned hd s, asks rfl (by simp)⟩
  rcases hr : answer (repository.resolve digest) s with ⟨cause | target, s₁⟩
  · exact ⟨_, _, _, runs_of_resolve_error hd hr, asks rfl (by simp [Call.options?])⟩
  rcases hk : answer (verifier.skipLevel options) s₁ with ⟨cause | _ | level, s₂⟩
  · exact ⟨_, _, _, runs_of_resolved hd hr (goes_settleResolved_of_error hk),
      asks rfl (by simp [Call.options?])⟩
  · have opened {c q u} h : Runs verifier repository options s
        (.resolve digest :: .skipLevel options :: c) q u :=
      runs_of_resolved hd hr (goes_settleResolved_of_unskipped hk h)
    rcases Nat.eq_zero_or_pos options.maxAttempts with barred | allowed
    · exact ⟨_, _, _, opened (goes_settleUnskipped_of_no_attempts barred s₂),
        asks rfl (by simp [Call.options?])⟩
    rcases hl : answer (repository.listSignatures target) s₂ with ⟨cause | signatures, s₃⟩
    · exact ⟨_, _, _, opened (goes_settleUnskipped_of_error allowed hl),
        asks rfl (by simp [Call.options?])⟩
    by_cases hn : signatures = []
    · subst hn
      exact ⟨_, _, _, opened (goes_settleUnskipped_of_listed allowed hl (goes_settleListed_nil s₃)),
        asks rfl (by simp [Call.options?])⟩
    obtain ⟨c, q, u, goes, bounded⟩ := exists_goes_search verifier repository options target
      options.maxAttempts signatures s₃
    refine ⟨_, _, _, opened (goes_settleUnskipped_of_listed allowed hl
      (goes_settleListed_of_search hn goes)), ?_⟩
    have opening : Bounded options 0
        [.resolve digest, .skipLevel options, .listSignatures target] :=
      ⟨Nat.le_refl 0, by simp [Call.options?]⟩
    simpa using opening.append bounded
  · exact ⟨_, _, _, runs_of_resolved hd hr (goes_settleResolved_of_skipped hk),
      asks rfl (by simp [Call.options?])⟩

/-- Every run puts at most as many envelopes to the verifier as its options allow, and asks it
with these options only. -/
theorem bounded_of_runs {calls : List Call}
    {r : Except VerificationError (Descriptor × List Outcome)}
    (runs : Runs verifier repository options s calls r t) :
    Bounded options options.maxAttempts calls := by
  obtain ⟨c, q, u, same, bounded⟩ := exists_runs verifier repository options s
  have h := (runs.records []).symm.trans (same.records [])
  simp only [List.nil_append, Prod.mk.injEq] at h
  rw [h.2.1]
  exact bounded

/-- The exact result of a verification whose reference resolves, with every call that it makes.
The signatures are searched up to the first one within the limit that is not rejected, whose
outcome or failure is the result; behind it nothing is fetched and nothing judged. -/
theorem run_result (pinned : options.digest = .ok digest)
    (resolves : answer (repository.resolve digest) s = (.ok target, s₁)) :
    (∀ calls r t, Runs verifier repository options s calls r t →
      calls.countP Call.isVerify ≤ options.maxAttempts) ∧
    (∀ level s₂, answer (verifier.skipLevel options) s₁ = (.ok (some level), s₂) →
      Runs verifier repository options s [.resolve digest, .skipLevel options]
        (.ok (target, [.skipped])) s₂) ∧
    ∀ s₂, answer (verifier.skipLevel options) s₁ = (.ok none, s₂) →
      (options.maxAttempts = 0 →
        Runs verifier repository options s [.resolve digest, .skipLevel options]
          (.error (.config "max_signature_attempts must be greater than 0")) s₂) ∧
      ∀ signatures s₃, 0 < options.maxAttempts →
        answer (repository.listSignatures target) s₂ = (.ok signatures, s₃) →
        let opening := [.resolve digest, .skipLevel options, .listSignatures target]
        let found := steps verifier repository options target signatures s₃
        (signatures = [] →
          Runs verifier repository options s opening
            (.error (.rejected (NoSignature.unsigned options.reference).message)) s₃) ∧
        (∀ k x r, IsLeast (ending options.maxAttempts found) k → found[k]? = some x →
          x.verdict.Ends r →
          Runs verifier repository options s
            (opening ++ (found.take (k + 1)).flatMap Step.calls)
            (r.map fun outcome => (target, [outcome])) x.state) ∧
        (signatures ≠ [] → ending options.maxAttempts found = ∅ →
          let reason := exhausted options options.maxAttempts signatures.length
          Runs verifier repository options s
            (opening ++ (found.take options.maxAttempts).flatMap Step.calls)
            (.error (.rejected reason.message))
            (stateAfter s₃ (found.take options.maxAttempts)) ∧
          (reason.message = (NoSignature.limit options.maxAttempts).message ↔
            options.maxAttempts < signatures.length)) := by
  refine ⟨fun _ _ _ runs => (bounded_of_runs runs).few, ?_, ?_⟩
  · intro level s₂ skips
    exact runs_of_resolved pinned resolves (goes_settleResolved_of_skipped skips)
  intro s₂ unskipped
  refine ⟨?_, ?_⟩
  · intro barred
    exact runs_of_resolved pinned resolves (goes_settleResolved_of_unskipped unskipped
      (goes_settleUnskipped_of_no_attempts barred s₂))
  intro signatures s₃ allowed lists
  have listed {calls r t} (goes : Goes (verifier.settleListed repository options target signatures)
      (verifier.recorded.settleListed repository.recorded options target signatures) s₃ calls r t) :
      Runs verifier repository options s
        (.resolve digest :: .skipLevel options :: .listSignatures target :: calls) r t :=
    runs_of_resolved pinned resolves (goes_settleResolved_of_unskipped unskipped
      (goes_settleUnskipped_of_listed allowed lists goes))
  refine ⟨?_, ?_, ?_⟩
  · rintro rfl
    exact listed (goes_settleListed_nil s₃)
  · intro k x r first found ends
    have signed : signatures ≠ [] := by
      rintro rfl
      cases found
    exact listed (goes_settleListed_of_search signed (goes_search_of_isLeast first found ends))
  · intro signed endless
    exact ⟨listed (goes_settleListed_of_search signed (goes_search_of_empty endless)),
      exhausted_message_eq_limit_iff options options.maxAttempts signatures.length⟩

/-- A place with three signatures: `"bare"` has no envelope, the other two have one each. Its
state counts the calls. -/
def threeSigned : Repository (StateM Nat) where
  resolve name := ExceptT.mk fun n => (.ok ⟨"artifact", name, 1, none, none⟩, n + 1)
  fetchManifest d := ExceptT.mk fun n =>
    let layers : List Descriptor :=
      if d.mediaType = "bare" then [] else [⟨MediaType.envelope, d.mediaType, 1, none, none⟩]
    (.ok ⟨2, none, none, d, layers, none, none⟩, n + 1)
  fetchBlob d := ExceptT.mk fun n => (.ok d.digest.toUTF8, n + 1)
  listSignatures d := ExceptT.mk fun n =>
    (.ok (["bare", "forged", "good"].map fun kind => { d with mediaType := kind }), n + 1)

def refusesForged : Verifier (StateM Nat) where
  skipLevel _ := ExceptT.mk fun n => (.ok none, n + 1)
  verify _ envelope _ := ExceptT.mk fun n =>
    (if envelope.size = 6 then .error (.rejected "forged") else .ok .skipped, n + 1)

def sampleDigest : String := "sha256:" ++ String.ofList (List.replicate 64 'a')

def sampleOptions : VerifyOptions := ⟨"app@" ++ sampleDigest, ∅, 3, ∅⟩

/-- The third signature of three counts, and all three are looked at. -/
theorem run_result_threeSigned :
    ∃ calls, Runs refusesForged threeSigned sampleOptions 0 calls
        (.ok (⟨"artifact", sampleDigest, 1, none, none⟩, [.skipped])) 10 ∧
      calls.countP Call.isVerify = 2 := by
  have pinned : sampleOptions.digest = .ok sampleDigest := by decide +kernel
  have resolves : answer (threeSigned.resolve sampleDigest) 0 =
      (.ok ⟨"artifact", sampleDigest, 1, none, none⟩, 1) := rfl
  have unskipped : answer (refusesForged.skipLevel sampleOptions) 1 = (.ok none, 2) := rfl
  have listed := (((run_result pinned resolves).2.2 2 unskipped).2 _ 3 (by decide) rfl).2.1
  refine ⟨_, listed 2 _ (.ok .skipped) ⟨⟨by decide, _, _, rfl, .accept _⟩, ?_⟩ rfl (.accept _), ?_⟩
  · rintro i ⟨-, x, r, hx, ends⟩
    match i with
    | 0 =>
      cases hx
      cases ends
    | 1 =>
      cases hx
      cases ends
    | i + 2 => omega
  · decide +kernel

end Verifier

end ArtifactTrust
