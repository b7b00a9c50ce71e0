import ArtifactTrust.Proofs.Verification.Acceptance
import ArtifactTrust.Proofs.Verification.Run

/-!
# Signatures beside a good one

No bytes keep the key verifier from a verdict, so where all that is listed can be fetched and the
limit covers it, the search gets to a good signature whatever stands before it.
-/

namespace ArtifactTrust

set_option autoImplicit false

variable {σ : Type}

/-- The layer of a signature manifest that is looked at, the first one with an envelope. -/
def Manifest.envelope? (m : Manifest) : Option Descriptor :=
  m.layers.find? (·.mediaType = MediaType.envelope)

namespace Repository

/-- Every listed manifest can be had at any time, and so can the envelope in it. -/
structure Fetches (repository : Repository (StateM σ)) (signatures : List Descriptor) : Prop where
  manifests : ∀ d ∈ signatures, ∀ s, ∃ m t, answer (repository.fetchManifest d) s = (.ok m, t)
  envelopes : ∀ d ∈ signatures, ∀ s m t, answer (repository.fetchManifest d) s = (.ok m, t) →
    ∀ layer, m.envelope? = some layer →
      ∀ u, ∃ document w, answer (repository.fetchBlob layer) u = (.ok document, w)

/-- A place that answers alike at any time: with an artifact, its signatures, the manifest of
each and the envelope in each manifest. -/
structure Holds (repository : Repository (StateM σ)) (digest : String) (target : Descriptor)
    (signatures : List Descriptor) (manifest : Descriptor → Manifest)
    (content : Descriptor → ByteArray) : Prop where
  resolves : ∀ s, ∃ t, answer (repository.resolve digest) s = (.ok target, t)
  lists : ∀ s, ∃ t, answer (repository.listSignatures target) s = (.ok signatures, t)
  manifests : ∀ d ∈ signatures, ∀ s, ∃ t,
    answer (repository.fetchManifest d) s = (.ok (manifest d), t)
  envelopes : ∀ d ∈ signatures, ∀ layer, (manifest d).envelope? = some layer →
    ∀ s, ∃ t, answer (repository.fetchBlob layer) s = (.ok (content layer), t)

end Repository

namespace Verifier

variable {verifier : Verifier (StateM σ)} {repository : Repository (StateM σ)}
  {options : VerifyOptions} {target : Descriptor} {signatures : List Descriptor} {s : σ}

def Succeeds (verifier : Verifier (StateM σ)) (repository : Repository (StateM σ))
    (options : VerifyOptions) (s : σ) : Prop :=
  ∃ found t, answer (verifier.run repository options) s = (.ok found, t)

/-- The verifier accepts or rejects every envelope, in whatever state it is asked. -/
def Decides (verifier : Verifier (StateM σ)) (options : VerifyOptions) : Prop :=
  ∀ target document s cause t,
    answer (verifier.verify target document options) s = (.error cause, t) →
      cause.isRejection = true

/-! ### Steps -/

theorem length_steps (signatures : List Descriptor) (s : σ) :
    (steps verifier repository options target signatures s).length = signatures.length := by
  induction signatures generalizing s with
  | nil => rfl
  | cons signature rest ih => rw [steps, List.length_cons, List.length_cons, ih]

theorem exists_step_of_mem_steps {x : Step σ}
    (mem : x ∈ steps verifier repository options target signatures s) :
    ∃ d ∈ signatures, ∃ u, x = step verifier repository options target d u := by
  induction signatures generalizing s with
  | nil => cases mem
  | cons signature rest ih =>
    rw [steps] at mem
    rcases List.mem_cons.mp mem with rfl | mem
    · exact ⟨signature, List.mem_cons_self, s, rfl⟩
    · obtain ⟨d, hd, u, hx⟩ := ih mem
      exact ⟨d, List.mem_cons_of_mem signature hd, u, hx⟩

theorem exists_mem_steps_of_mem {d : Descriptor} (mem : d ∈ signatures) (s : σ) :
    ∃ u, step verifier repository options target d u ∈
      steps verifier repository options target signatures s := by
  induction signatures generalizing s with
  | nil => cases mem
  | cons signature rest ih =>
    rw [steps]
    rcases List.mem_cons.mp mem with rfl | mem
    · exact ⟨s, List.mem_cons_self⟩
    · obtain ⟨u, hu⟩ := ih mem (step verifier repository options target signature s).state
      exact ⟨u, List.mem_cons_of_mem _ hu⟩

theorem not_abort_of_fetches (decides : verifier.Decides options)
    (fetches : repository.Fetches signatures) {x : Step σ}
    (mem : x ∈ steps verifier repository options target signatures s)
    (cause : VerificationError) : x.verdict ≠ .abort cause := by
  obtain ⟨d, listed, u, rfl⟩ := exists_step_of_mem_steps mem
  obtain ⟨m, t, fetched⟩ := fetches.manifests d listed u
  unfold step
  rw [fetched]
  cases found : m.layers.find? (·.mediaType = MediaType.envelope) with
  | none =>
    simp only [found]
    intro h
    cases h
  | some layer =>
    obtain ⟨document, w, blob⟩ := fetches.envelopes d listed u m t fetched layer found t
    simp only [found, blob]
    rcases judged : answer (verifier.verify target document options) w with ⟨r, z⟩
    cases r with
    | ok outcome =>
      intro h
      cases h
    | error own =>
      simp only [decides target document w own z judged, if_true]
      intro h
      cases h

/-- A search that nothing aborts finds an accepted signature wherever in its limit there is
one. -/
theorem exists_answer_search_iff {limit : Nat} (within : signatures.length ≤ limit)
    (settled : ∀ x ∈ steps verifier repository options target signatures s,
      ∀ cause, x.verdict ≠ .abort cause) :
    (∃ outcome t, answer (verifier.search repository options target limit signatures) s =
        (.ok outcome, t)) ↔
      ∃ x ∈ steps verifier repository options target signatures s,
        ∃ outcome, x.verdict = .accept outcome := by
  -- Either no step ends the search, or the first one that does ends it by accepting.
  rcases Set.eq_empty_or_nonempty
    (ending limit (steps verifier repository options target signatures s)) with none | some
  · refine iff_of_false ?_ ?_
    · rintro ⟨outcome, t, h⟩
      rw [(goes_search_of_empty none).answers] at h
      cases h
    · rintro ⟨x, mem, outcome, accepts⟩
      obtain ⟨i, inside, found⟩ := List.mem_iff_getElem.mp mem
      have early : i < limit := by
        rw [length_steps] at inside
        omega
      have ends : i ∈ ending limit (steps verifier repository options target signatures s) :=
        ⟨early, x, .ok outcome, List.getElem?_eq_some_iff.mpr ⟨inside, found⟩,
          accepts ▸ .accept outcome⟩
      rw [none] at ends
      exact ends
  · classical
    have first := some.isLeast_natFind
    obtain ⟨-, x, r, found, ends⟩ := first.1
    have mem := List.mem_of_getElem? found
    have goes := goes_search_of_isLeast first found ends
    cases hv : x.verdict with
    | accept outcome =>
      rw [hv] at ends
      cases ends
      exact iff_of_true ⟨outcome, x.state, goes.answers⟩ ⟨x, mem, outcome, hv⟩
    | reject =>
      rw [hv] at ends
      cases ends
    | abort cause => exact absurd hv (settled x mem cause)

end Verifier

namespace KeyVerifier

open Verifier Text

variable {v : KeyVerifier} {options : VerifyOptions} {statement : Statement} {digest : String}
  {target : Descriptor} {signatures : List Descriptor}

theorem verify_cases (governs : v.policy.statement? options.reference = some statement)
    (judges : statement.level ≠ .skip) (now : Time.Instant) (target : Descriptor)
    (document : ByteArray) :
    (∃ outcome, v.verify now target document options = .ok outcome) ∨
      ∃ message, v.verify now target document options = .error (.rejected message) := by
  rw [verify_of_governed governs judges]
  cases v.judge now statement target document options with
  | ok outcome => exact .inl ⟨outcome, rfl⟩
  | error rejection => exact .inr ⟨rejection.message, rfl⟩

theorem answer_withClock_verify (clock : StateM σ Time.Instant) (target : Descriptor)
    (document : ByteArray) (options : VerifyOptions) (s : σ) :
    answer ((v.withClock clock).verify target document options) s =
      (v.verify (clock.run s).1 target document options, (clock.run s).2) := rfl

theorem decides_withClock (governs : v.policy.statement? options.reference = some statement)
    (judges : statement.level ≠ .skip) (clock : StateM σ Time.Instant) :
    (v.withClock clock).Decides options := by
  intro target document s cause t fails
  rw [answer_withClock_verify] at fails
  rcases verify_cases governs judges (clock.run s).1 target document with
    ⟨outcome, h⟩ | ⟨message, h⟩
  · rw [h] at fails
    cases fails
  · rw [h] at fails
    cases fails
    rfl

theorem answer_withClock_level (clock : StateM σ Time.Instant) (options : VerifyOptions) (s : σ) :
    answer ((v.withClock clock).skipLevel options) s = (v.skipLevel options, s) := rfl

theorem answer_withClock_skipLevel
    (governs : v.policy.statement? options.reference = some statement)
    (judges : statement.level ≠ .skip) (clock : StateM σ Time.Instant) (s : σ) :
    answer ((v.withClock clock).skipLevel options) s = (.ok none, s) := by
  rw [answer_withClock_level]
  unfold skipLevel
  rw [statement_eq_ok_iff.mpr governs, bind_ok, if_neg judges]
  rfl

theorem succeeds_iff_step (governs : v.policy.statement? options.reference = some statement)
    (judges : statement.level ≠ .skip) (pinned : options.digest = .ok digest)
    {repository : Repository (StateM σ)} (clock : StateM σ Time.Instant) {s₀ s₁ s₂ : σ}
    (resolves : answer (repository.resolve digest) s₀ = (.ok target, s₁))
    (lists : answer (repository.listSignatures target) s₁ = (.ok signatures, s₂))
    (within : signatures.length ≤ options.maxAttempts)
    (fetches : repository.Fetches signatures) :
    Succeeds (v.withClock clock) repository options s₀ ↔
      ∃ x ∈ steps (v.withClock clock) repository options target signatures s₂,
        ∃ outcome, x.verdict = .accept outcome := by
  have unskipped := answer_withClock_skipLevel governs judges clock s₁
  have settled : ∀ x ∈ steps (v.withClock clock) repository options target signatures s₂,
      ∀ cause, x.verdict ≠ .abort cause := fun x mem =>
    not_abort_of_fetches (decides_withClock governs judges clock) fetches mem
  rw [← exists_answer_search_iff within settled]
  constructor
  · rintro ⟨⟨found, outcomes⟩, t, succeeds⟩
    obtain ⟨-, outcome, -, searched⟩ :=
      (answer_run_eq_ok_iff pinned resolves unskipped lists).mp succeeds
    exact ⟨outcome, t, searched⟩
  · rintro ⟨outcome, t, searched⟩
    exact ⟨(target, [outcome]), t,
      (answer_run_eq_ok_iff pinned resolves unskipped lists).mpr ⟨rfl, outcome, rfl, searched⟩⟩

/-! ### Places that stay -/

section Holds

variable {repository : Repository (StateM σ)} {manifest : Descriptor → Manifest}
  {content : Descriptor → ByteArray} {clock : StateM σ Time.Instant} {now : Time.Instant}

theorem fetches_of_holds
    (holds : repository.Holds digest target signatures manifest content) :
    repository.Fetches signatures := by
  refine ⟨fun d listed s => ⟨manifest d, holds.manifests d listed s⟩, ?_⟩
  intro d listed s m t fetched layer found u
  obtain ⟨_, h⟩ := holds.manifests d listed s
  rw [h] at fetched
  cases fetched
  exact ⟨content layer, holds.envelopes d listed layer found u⟩

theorem accepts_step_iff (holds : repository.Holds digest target signatures manifest content)
    (stands : ∀ s, (clock.run s).1 = now) {d : Descriptor} (listed : d ∈ signatures) (s : σ) :
    (∃ outcome, (step (v.withClock clock) repository options target d s).verdict =
        .accept outcome) ↔
      ∃ layer, (manifest d).envelope? = some layer ∧
        ∃ outcome, v.verify now target (content layer) options = .ok outcome := by
  obtain ⟨t, fetched⟩ := holds.manifests d listed s
  unfold step
  rw [fetched]
  cases found : (manifest d).envelope? with
  | none =>
    unfold Manifest.envelope? at found
    simp [found]
  | some layer =>
    obtain ⟨u, blob⟩ := holds.envelopes d listed layer found t
    unfold Manifest.envelope? at found
    simp only [found, blob, answer_withClock_verify, stands, Option.some.injEq,
      exists_eq_left']
    cases v.verify now target (content layer) options with
    | ok outcome => simp
    | error cause =>
      cases hr : cause.isRejection with
      | true => simp [hr]
      | false => simp [hr]

theorem succeeds_iff_of_holds
    (governs : v.policy.statement? options.reference = some statement)
    (judges : statement.level ≠ .skip) (pinned : options.digest = .ok digest)
    (holds : repository.Holds digest target signatures manifest content)
    (within : signatures.length ≤ options.maxAttempts)
    (stands : ∀ s, (clock.run s).1 = now) (s₀ : σ) :
    Succeeds (v.withClock clock) repository options s₀ ↔
      ∃ d ∈ signatures, ∃ layer, (manifest d).envelope? = some layer ∧
        ∃ outcome, v.verify now target (content layer) options = .ok outcome := by
  obtain ⟨s₁, resolves⟩ := holds.resolves s₀
  obtain ⟨s₂, lists⟩ := holds.lists s₁
  rw [succeeds_iff_step governs judges pinned clock resolves lists within
    (fetches_of_holds holds)]
  constructor
  · rintro ⟨x, mem, accepts⟩
    obtain ⟨d, listed, u, rfl⟩ := exists_step_of_mem_steps mem
    exact ⟨d, listed, (accepts_step_iff holds stands listed u).mp accepts⟩
  · rintro ⟨d, listed, accepts⟩
    obtain ⟨u, mem⟩ : ∃ u, step (v.withClock clock) repository options target d u ∈
        steps (v.withClock clock) repository options target signatures s₂ :=
      exists_mem_steps_of_mem listed s₂
    exact ⟨_, mem, (accepts_step_iff holds stands listed u).mpr accepts⟩

end Holds

/-- No envelope masks a good signature. The key verifier accepts or rejects any bytes, so where
all that is listed can be fetched, a verification succeeds exactly if it would accept one of the
listed signatures. For content that stays, that is a matter of the envelopes alone: neither their
order nor any envelope beside them turns a success into a failure. -/
theorem succeeds_unmasked (governs : v.policy.statement? options.reference = some statement)
    (judges : statement.level ≠ .skip) (pinned : options.digest = .ok digest) :
    (∀ now target document, (∃ outcome, v.verify now target document options = .ok outcome) ∨
      ∃ message, v.verify now target document options = .error (.rejected message)) ∧
    (∀ {σ : Type} {repository : Repository (StateM σ)} (clock : StateM σ Time.Instant)
        {target signatures} {s₀ s₁ s₂ : σ},
      answer (repository.resolve digest) s₀ = (.ok target, s₁) →
      answer (repository.listSignatures target) s₁ = (.ok signatures, s₂) →
      signatures.length ≤ options.maxAttempts → repository.Fetches signatures →
      (Succeeds (v.withClock clock) repository options s₀ ↔
        ∃ x ∈ steps (v.withClock clock) repository options target signatures s₂,
          ∃ outcome, x.verdict = .accept outcome)) ∧
    (∀ {σ : Type} {repository : Repository (StateM σ)} {clock : StateM σ Time.Instant} {now}
        {target signatures manifest content},
      repository.Holds digest target signatures manifest content →
      signatures.length ≤ options.maxAttempts → (∀ s, (clock.run s).1 = now) →
      ∀ s₀, Succeeds (v.withClock clock) repository options s₀ ↔
        ∃ d ∈ signatures, ∃ layer, (manifest d).envelope? = some layer ∧
          ∃ outcome, v.verify now target (content layer) options = .ok outcome) ∧
    (∀ {σ τ : Type} {repository : Repository (StateM σ)} {other : Repository (StateM τ)}
        {clock : StateM σ Time.Instant} {watch : StateM τ Time.Instant} {now}
        {target signatures more manifest content},
      repository.Holds digest target signatures manifest content →
      other.Holds digest target more manifest content → signatures ⊆ more →
      signatures.length ≤ options.maxAttempts → more.length ≤ options.maxAttempts →
      (∀ s, (clock.run s).1 = now) → (∀ s, (watch.run s).1 = now) →
      ∀ s₀ t₀, Succeeds (v.withClock clock) repository options s₀ →
        Succeeds (v.withClock watch) other options t₀) := by
  refine ⟨verify_cases governs judges, ?_, ?_, ?_⟩
  · intro σ repository clock target signatures s₀ s₁ s₂ resolves lists within fetches
    exact succeeds_iff_step governs judges pinned clock resolves lists within fetches
  · intro σ repository clock now target signatures manifest content holds within stands s₀
    exact succeeds_iff_of_holds governs judges pinned holds within stands s₀
  · intro σ τ repository other clock watch now target signatures more manifest content holds
      extended included within beyond stands alike s₀ t₀ succeeds
    obtain ⟨d, listed, accepted⟩ :=
      (succeeds_iff_of_holds governs judges pinned holds within stands s₀).mp succeeds
    exact (succeeds_iff_of_holds governs judges pinned extended beyond alike t₀).mpr
      ⟨d, included listed, accepted⟩

def attachedManifest (d : Descriptor) : Manifest :=
  ⟨2, none, none, d,
    if d.mediaType = "bare" then [] else [⟨MediaType.envelope, d.mediaType, 1, none, none⟩],
    none, none⟩

/-- An envelope about the artifact of the sample, by a key that nobody trusts. -/
def untrustedDocument : ByteArray :=
  Json.encode
    (⟨MediaType.payload,
      Base64.encoded (Json.encode (⟨sampleTarget, sampleNow, none⟩ : Payload)).data.toList,
      [⟨"k", ""⟩]⟩ : Envelope)

def attachedContent (layer : Descriptor) : ByteArray :=
  if layer.digest = "good" then sampleDocument
  else if layer.digest = "untrusted" then untrustedDocument
  else layer.digest.toUTF8

def attached (kind : String) : Descriptor := { sampleTarget with mediaType := kind }

/-- A place with a signature of each of some kinds: `"bare"` ones have no envelope, and where the
kind is not that of an envelope the bytes of its name are one. -/
def attachedRepository (kinds : List String) : Repository (StateM Unit) where
  resolve _ := pure sampleTarget
  fetchManifest d := pure (attachedManifest d)
  fetchBlob layer := pure (attachedContent layer)
  listSignatures _ := pure (kinds.map attached)

theorem holds_attachedRepository (kinds : List String) (digest : String) :
    (attachedRepository kinds).Holds digest sampleTarget (kinds.map attached) attachedManifest
      attachedContent :=
  ⟨fun s => ⟨s, rfl⟩, fun s => ⟨s, rfl⟩, fun _ _ s => ⟨s, rfl⟩, fun _ _ _ _ s => ⟨s, rfl⟩⟩

def attachedOptions : VerifyOptions where
  reference := "local/app@" ++ sampleDigest
  pluginConfig := ∅
  maxAttempts := 4
  userMetadata := ∅

theorem attached_governed :
    sampleVerifier.policy.statement? attachedOptions.reference = some sampleStatement := by
  decide +kernel

set_option maxRecDepth 100000 in
theorem attached_good : ∃ outcome,
    sampleVerifier.verify sampleNow sampleTarget sampleDocument attachedOptions = .ok outcome :=
  exists_ok_of_isOk (by decide +kernel)

theorem attached_pinned : attachedOptions.digest = .ok sampleDigest := by
  decide +kernel

/-- Three signatures that do not count, before a good one, do not mask it. -/
theorem succeeds_unmasked_goodLast :
    Succeeds (sampleVerifier.withClock (pure sampleNow))
      (attachedRepository ["forged", "bare", "untrusted", "good"]) attachedOptions () := by
  obtain ⟨-, -, iff, keeps⟩ := succeeds_unmasked attached_governed (by decide) attached_pinned
  have alone := holds_attachedRepository ["good"] sampleDigest
  have beside := holds_attachedRepository ["forged", "bare", "untrusted", "good"] sampleDigest
  have succeeds : Succeeds (sampleVerifier.withClock (pure sampleNow))
      (attachedRepository ["good"]) attachedOptions () :=
    (iff alone (by decide) (fun _ => rfl) ()).mpr
      ⟨attached "good", List.mem_singleton_self _, _, rfl, attached_good⟩
  exact keeps alone beside (by simp) (by decide) (by decide) (fun _ => rfl) (fun _ => rfl) () ()
    succeeds

end KeyVerifier

end ArtifactTrust
