import ArtifactTrust.Proofs.Except
import ArtifactTrust.Proofs.NameMap
import ArtifactTrust.Proofs.Text.Base64
import ArtifactTrust.Verification.Verifier

/-!
# When a signature is accepted

The envelopes that the key verifier accepts, said without its order of checks. An envelope that
misses a condition which the governing statement enforces is rejected.
-/

namespace ArtifactTrust

set_option autoImplicit false

open Ed25519 Text

/-! ### Keys -/

/-- The key under an id in some trust stores, from the first of them that has the id. -/
inductive TrustStore.FirstKey (t : TrustStore) (id : String) (key : PublicKey) :
    List String → Prop
  | here {name : String} {rest : List String} {keys : NameMap PublicKey}
      (store : t.stores.get? name = some keys) (found : keys.get? id = some key) :
      FirstKey t id key (name :: rest)
  | later {name : String} {rest : List String}
      (absent : ∀ keys, t.stores.get? name = some keys → keys.get? id = none)
      (found : FirstKey t id key rest) : FirstKey t id key (name :: rest)

theorem TrustStore.lookup_keysIn_iff {t : TrustStore} {names : List String} {id : String}
    {key : PublicKey} : (t.keysIn names).lookup id = some key ↔ t.FirstKey id key names := by
  induction names with
  | nil =>
    constructor
    · intro h
      cases h
    · intro h
      cases h
  | cons name rest ih =>
    cases hs : t.stores.get? name with
    | none =>
      have skip : t.keysIn (name :: rest) = t.keysIn rest := by simp [keysIn, hs]
      rw [skip, ih]
      constructor
      · intro found
        exact .later (fun keys h => by rw [hs] at h; cases h) found
      · intro h
        cases h with
        | here store => rw [hs] at store; cases store
        | later _ found => exact found
    | some keys =>
      have split : t.keysIn (name :: rest) = keys.entries ++ t.keysIn rest := by
        simp [keysIn, hs]
      rw [split, List.lookup_append, ← NameMap.get?]
      cases hk : keys.get? id with
      | none =>
        rw [Option.none_or, ih]
        constructor
        · intro found
          refine .later (fun other h => ?_) found
          rw [hs] at h
          cases h
          exact hk
        · intro h
          cases h with
          | here store found =>
            rw [hs] at store
            cases store
            rw [hk] at found
            cases found
          | later _ found => exact found
      | some own =>
        rw [Option.some_or]
        constructor
        · intro h
          cases h
          exact .here hs hk
        · intro h
          cases h with
          | here store found =>
            rw [hs] at store
            cases store
            rw [← hk, found]
          | later absent _ =>
            rw [absent keys hs] at hk
            cases hk

/-! ### Signatures -/

/-- A signature that counts: the canonical text of 64 bytes that verify a message under the
first key of that id. -/
def KeySignature.Counts (s : KeySignature) (t : TrustStore) (names : List String)
    (message : List UInt8) : Prop :=
  ∃ (bytes : List UInt8) (key : PublicKey), s.signature = Base64.encoded bytes ∧
    bytes.length = 64 ∧ t.FirstKey s.keyId key names ∧ key.verifies message bytes = true

theorem KeySignature.check_eq_ok_iff {s : KeySignature} {key : PublicKey}
    {message : List UInt8} :
    s.check key message = .ok () ↔
      ∃ bytes, s.signature = Base64.encoded bytes ∧ bytes.length = 64 ∧
        key.verifies message bytes = true := by
  unfold check
  cases hd : Base64.decoded s.signature with
  | error fault =>
    constructor
    · intro h
      cases h
    · rintro ⟨bytes, canonical, -⟩
      rw [Base64.decoded_eq_ok_iff.mpr canonical] at hd
      cases hd
  | ok bytes =>
    have canonical := Base64.decoded_eq_ok_iff.mp hd
    constructor
    · intro h
      refine ⟨bytes, canonical, ?_⟩
      by_cases hl : bytes.length = 64
      · by_cases hv : key.verifies message bytes = true
        · exact ⟨hl, hv⟩
        · simp [hl, hv] at h
      · simp [hl] at h
    · rintro ⟨other, h, hl, hv⟩
      rw [Base64.decoded_eq_ok_iff.mpr h] at hd
      cases hd
      simp [hl, hv]

theorem KeySignature.checkAmong_eq_ok_iff {s : KeySignature} {t : TrustStore}
    {names : List String} {message : List UInt8} :
    s.checkAmong (t.keysIn names) message = .ok () ↔ s.Counts t names message := by
  unfold checkAmong
  cases hk : (t.keysIn names).lookup s.keyId with
  | none =>
    constructor
    · intro h
      cases h
    · rintro ⟨bytes, key, -, -, first, -⟩
      rw [TrustStore.lookup_keysIn_iff.mpr first] at hk
      cases hk
  | some key =>
    rw [check_eq_ok_iff]
    constructor
    · rintro ⟨bytes, canonical, size, verifies⟩
      exact ⟨bytes, key, canonical, size, TrustStore.lookup_keysIn_iff.mp hk, verifies⟩
    · rintro ⟨bytes, other, canonical, size, first, verifies⟩
      rw [TrustStore.lookup_keysIn_iff.mpr first] at hk
      cases hk
      exact ⟨bytes, canonical, size, verifies⟩

theorem KeySignature.exists_firstGood_iff {keys : List (String × PublicKey)}
    {message : List UInt8} (fault : SignatureFault) {signatures : List KeySignature} :
    (∃ id, firstGood keys message fault signatures = .ok id) ↔
      ∃ s ∈ signatures, s.checkAmong keys message = .ok () := by
  induction signatures generalizing fault with
  | nil => simp [firstGood]
  | cons s rest ih =>
    cases hs : s.checkAmong keys message with
    | ok u => simp [firstGood, hs]
    | error next => simp [firstGood, hs, ih next]

theorem KeyVerifier.unauthentic?_eq_none_iff {v : KeyVerifier} {s : Statement}
    {o : Envelope.Opened} :
    v.unauthentic? s o = none ↔
      ∃ signature ∈ o.envelope.signatures, signature.Counts v.store s.trustStores
        (Envelope.authenticated o.envelope.payloadType o.content) := by
  simp only [← KeySignature.checkAmong_eq_ok_iff]
  rw [← KeySignature.exists_firstGood_iff .none]
  unfold unauthentic? Envelope.signer
  cases KeySignature.firstGood (v.store.keysIn s.trustStores)
    (Envelope.authenticated o.envelope.payloadType o.content) .none o.envelope.signatures with
  | ok id => simp
  | error fault => simp

/-! ### Envelopes -/

/-- A document holds an envelope about an artifact. The payload is what is signed, byte for byte,
and it names the artifact by all that tells contents apart. -/
structure Envelope.IsFor (target : Descriptor) (document : ByteArray) (o : Envelope.Opened) :
    Prop where
  decodes : (Json.decode? document : Option Envelope) = some o.envelope
  payloadType : o.envelope.payloadType = MediaType.payload
  signed : o.envelope.signatures ≠ []
  canonical : o.envelope.payload = Base64.encoded o.content
  parses : (Json.decode? ⟨o.content.toArray⟩ : Option Payload) = some o.payload
  digest : o.payload.target.digest = target.digest
  size : o.payload.target.size = target.size
  mediaType : o.payload.target.mediaType = target.mediaType

theorem Envelope.opened_eq_ok_iff {document : ByteArray} {o : Envelope.Opened} :
    opened document = .ok o ↔
      (Json.decode? document : Option Envelope) = some o.envelope ∧
      o.envelope.payloadType = MediaType.payload ∧ o.envelope.signatures ≠ [] ∧
      o.envelope.payload = Base64.encoded o.content ∧
      (Json.decode? ⟨o.content.toArray⟩ : Option Payload) = some o.payload := by
  rw [← Base64.decoded_eq_ok_iff]
  unfold opened
  constructor
  · intro h
    cases he : (Json.decode? document : Option Envelope) with
    | none =>
      rw [he] at h
      cases h
    | some e =>
      simp only [he] at h
      split at h
      · cases h
      rename_i ht
      split at h
      · cases h
      rename_i hn
      cases hd : Base64.decoded e.payload with
      | error fault =>
        rw [hd] at h
        cases h
      | ok content =>
        simp only [hd] at h
        cases hp : (Json.decode? ⟨content.toArray⟩ : Option Payload) with
        | none =>
          rw [hp] at h
          cases h
        | some payload =>
          rw [hp] at h
          cases h
          exact ⟨rfl, Decidable.not_not.mp ht, fun hs => hn (List.isEmpty_iff.mpr hs), hd, hp⟩
  · rintro ⟨he, ht, hn, hd, hp⟩
    have signed : ¬ o.envelope.signatures.isEmpty := fun h => hn (List.isEmpty_iff.mp h)
    simp only [he, ht, ne_eq, not_true_eq_false, if_false, signed, hd, hp]
    rfl

theorem Payload.checkTarget_eq_ok_iff {p : Payload} {target : Descriptor} :
    p.checkTarget target = .ok () ↔
      p.target.digest = target.digest ∧ p.target.size = target.size ∧
        p.target.mediaType = target.mediaType := by
  unfold checkTarget
  by_cases hd : p.target.digest = target.digest
  · by_cases hs : p.target.size = target.size
    · by_cases hm : p.target.mediaType = target.mediaType
      · simp [hd, hs, hm]
      · simp [hd, hs, hm]
    · simp [hd, hs]
  · simp [hd]

theorem Envelope.openFor_eq_ok_iff {target : Descriptor} {document : ByteArray}
    {o : Envelope.Opened} : openFor target document = .ok o ↔ IsFor target document o := by
  unfold openFor
  constructor
  · intro h
    cases ho : opened document with
    | error fault =>
      rw [ho] at h
      cases h
    | ok found =>
      simp only [ho] at h
      cases hc : found.payload.checkTarget target with
      | error fault =>
        rw [hc] at h
        cases h
      | ok u =>
        rw [hc] at h
        cases h
        obtain ⟨decodes, payloadType, signed, canonical, parses⟩ := opened_eq_ok_iff.mp ho
        obtain ⟨digest, size, mediaType⟩ := Payload.checkTarget_eq_ok_iff.mp hc
        exact ⟨decodes, payloadType, signed, canonical, parses, digest, size, mediaType⟩
  · rintro ⟨decodes, payloadType, signed, canonical, parses, digest, size, mediaType⟩
    rw [opened_eq_ok_iff.mpr ⟨decodes, payloadType, signed, canonical, parses⟩]
    simp only
    rw [Payload.checkTarget_eq_ok_iff.mpr ⟨digest, size, mediaType⟩]

/-! ### The judgement -/

theorem Payload.expired?_eq_none_iff {p : Payload} {now : Time.Instant} :
    p.expired? now = none ↔ ∀ expiry, p.expiresAt = some expiry → ¬ expiry ≤ now := by
  unfold expired?
  cases p.expiresAt with
  | none => simp
  | some expiry =>
    by_cases h : expiry ≤ now
    · simp [h]
    · simp [h]

theorem CheckResult.exists_settle_iff (check : Check) {action : Action}
    {failure : Option String} :
    (∃ results, settle check action failure = .ok results) ↔
      (action = .enforce → failure = none) := by
  cases action with
  | skip => simp [settle]
  | log => simp [settle]
  | enforce =>
    cases failure with
    | none => simp [settle]
    | some reason => simp [settle]

theorem CheckResult.eq_of_mem_settle {check : Check} {action : Action} {failure : Option String}
    {results : List CheckResult} {r : CheckResult}
    (settled : settle check action failure = .ok results) (mem : r ∈ results) :
    r = ⟨check, action, failure⟩ := by
  cases action with
  | skip =>
    cases settled
    cases mem
  | log =>
    cases settled
    exact List.mem_singleton.mp mem
  | enforce =>
    cases failure with
    | none =>
      cases settled
      exact List.mem_singleton.mp mem
    | some reason => cases settled

theorem Payload.checkMetadata_eq_ok_iff {p : Payload} {asked : List (String × String)} :
    p.checkMetadata asked = .ok () ↔
      ∀ entry ∈ asked, p.target.annotation? entry.1 = some entry.2 := by
  induction asked with
  | nil => simp [checkMetadata]
  | cons entry rest ih =>
    obtain ⟨name, text⟩ := entry
    by_cases h : p.target.annotation? name = some text
    · simp [checkMetadata, h, ih]
    · simp [checkMetadata, h]

namespace KeyVerifier

variable {v : KeyVerifier} {now : Time.Instant} {s : Statement} {target : Descriptor}
  {document : ByteArray} {options : VerifyOptions} {outcome : Outcome}

theorem statement_eq_ok_iff {reference : String} :
    v.statement reference = .ok s ↔ v.policy.statement? reference = some s := by
  unfold statement
  cases v.policy.statement? reference with
  | none => simp
  | some found => simp

/-- What an envelope has to hold and to pass under a statement. -/
structure Accepts (v : KeyVerifier) (now : Time.Instant) (s : Statement) (target : Descriptor)
    (document : ByteArray) (options : VerifyOptions) (o : Envelope.Opened) : Prop where
  isFor : Envelope.IsFor target document o
  authentic : s.action .authenticity = .enforce →
    ∃ signature ∈ o.envelope.signatures, signature.Counts v.store s.trustStores
      (Envelope.authenticated o.envelope.payloadType o.content)
  unexpired : s.action .expiry = .enforce →
    ∀ expiry, o.payload.expiresAt = some expiry → ¬ expiry ≤ now
  metadata : ∀ name text, options.userMetadata.get? name = some text →
    o.payload.target.annotation? name = some text

theorem judge_eq_ok_iff :
    v.judge now s target document options = .ok outcome ↔
      ∃ o authenticity expiry, Envelope.openFor target document = .ok o ∧
        CheckResult.settle .authenticity (s.action .authenticity) (v.unauthentic? s o) =
          .ok authenticity ∧
        CheckResult.settle .expiry (s.action .expiry) (o.payload.expired? now) = .ok expiry ∧
        o.payload.checkMetadata options.userMetadata.entries = .ok () ∧
        outcome = ⟨s.level, ⟨.integrity, .enforce, none⟩ :: (authenticity ++ expiry),
          some o.payload⟩ := by
  unfold judge
  constructor
  · intro h
    cases ho : Envelope.openFor target document with
    | error fault =>
      rw [ho] at h
      cases h
    | ok o =>
      simp only [ho, bind_eq_ok_iff] at h
      obtain ⟨authenticity, ha, expiry, he, u, hm, h⟩ := h
      cases h
      exact ⟨o, authenticity, expiry, rfl, ha, he, hm, rfl⟩
  · rintro ⟨o, authenticity, expiry, ho, ha, he, hm, rfl⟩
    simp only [ho, ha, he, hm]
    rfl

theorem accepts_of_judge (h : v.judge now s target document options = .ok outcome) :
    ∃ o, Accepts v now s target document options o ∧ outcome.level = s.level ∧
      outcome.payload = some o.payload := by
  obtain ⟨o, authenticity, expiry, ho, ha, he, hm, rfl⟩ := judge_eq_ok_iff.mp h
  refine ⟨o, ⟨Envelope.openFor_eq_ok_iff.mp ho, ?_, ?_, ?_⟩, rfl, rfl⟩
  · intro enforced
    exact unauthentic?_eq_none_iff.mp ((CheckResult.exists_settle_iff _).mp ⟨_, ha⟩ enforced)
  · intro enforced
    exact Payload.expired?_eq_none_iff.mp ((CheckResult.exists_settle_iff _).mp ⟨_, he⟩ enforced)
  · intro name text asked
    exact Payload.checkMetadata_eq_ok_iff.mp hm _ (NameMap.get?_eq_some_iff_mem.mp asked)

theorem exists_judge_of_accepts {o : Envelope.Opened}
    (accepts : Accepts v now s target document options o) :
    ∃ outcome, v.judge now s target document options = .ok outcome := by
  obtain ⟨authenticity, ha⟩ := (CheckResult.exists_settle_iff .authenticity).mpr
    fun enforced => unauthentic?_eq_none_iff.mpr (accepts.authentic enforced)
  obtain ⟨expiry, he⟩ := (CheckResult.exists_settle_iff .expiry).mpr
    fun enforced => Payload.expired?_eq_none_iff.mpr (accepts.unexpired enforced)
  have metadata : o.payload.checkMetadata options.userMetadata.entries = .ok () := by
    apply Payload.checkMetadata_eq_ok_iff.mpr
    rintro ⟨name, text⟩ mem
    exact accepts.metadata name text (NameMap.get?_eq_some_iff_mem.mpr mem)
  exact ⟨_, judge_eq_ok_iff.mpr
    ⟨o, authenticity, expiry, Envelope.openFor_eq_ok_iff.mpr accepts.isFor, ha, he, metadata, rfl⟩⟩

theorem verify_of_governed (governs : v.policy.statement? options.reference = some s)
    (judges : s.level ≠ .skip) :
    v.verify now target document options =
      (v.judge now s target document options).mapError fun r => .rejected r.message := by
  unfold verify
  rw [statement_eq_ok_iff.mpr governs, bind_ok]
  simp only [judges, if_false]
  cases v.judge now s target document options with
  | ok outcome => rfl
  | error rejection => rfl

/-- The envelopes that are accepted under a statement that does not skip verification are those
that meet all the conditions that it enforces; any other envelope is rejected. -/
theorem verify_isOk_iff (governs : v.policy.statement? options.reference = some s)
    (judges : s.level ≠ .skip) :
    ((∃ outcome, v.verify now target document options = .ok outcome) ↔
      ∃ o, Accepts v now s target document options o) ∧
    (∀ cause, v.verify now target document options = .error cause →
      cause.isRejection = true) := by
  rw [verify_of_governed governs judges]
  cases hj : v.judge now s target document options with
  | ok outcome =>
    obtain ⟨o, accepts, -⟩ := accepts_of_judge hj
    refine ⟨⟨fun _ => ⟨o, accepts⟩, fun _ => ⟨outcome, rfl⟩⟩, ?_⟩
    intro cause h
    cases h
  | error rejection =>
    refine ⟨⟨?_, ?_⟩, ?_⟩
    · rintro ⟨outcome, h⟩
      cases h
    · rintro ⟨o, accepts⟩
      obtain ⟨outcome, h⟩ := exists_judge_of_accepts accepts
      rw [hj] at h
      cases h
    · intro cause h
      cases h
      rfl

/-- An outcome that is not that of a skipped verification was judged, and so all that a governing
statement demands is met. -/
theorem accepts_of_verify (h : v.verify now target document options = .ok outcome)
    (judged : outcome.level ≠ .skip) :
    ∃ s o, v.policy.statement? options.reference = some s ∧ s.level ≠ .skip ∧
      Accepts v now s target document options o ∧ outcome.payload = some o.payload := by
  cases hs : v.policy.statement? options.reference with
  | none =>
    unfold verify statement at h
    rw [hs] at h
    cases h
  | some s =>
    by_cases skips : s.level = .skip
    · unfold verify at h
      rw [statement_eq_ok_iff.mpr hs, bind_ok, if_pos skips] at h
      cases h
      exact absurd rfl judged
    · rw [verify_of_governed hs skips] at h
      cases hj : v.judge now s target document options with
      | error rejection =>
        rw [hj] at h
        cases h
      | ok found =>
        rw [hj] at h
        cases h
        obtain ⟨o, accepts, -, payload⟩ := accepts_of_judge hj
        exact ⟨s, o, rfl, skips, accepts, payload⟩

def sampleNow : Time.Instant where
  date := ⟨2024, 1, 1, by decide, by decide, by decide⟩
  hour := 0
  minute := 0
  second := 0
  nano := 0
  hour_lt := by decide
  minute_lt := by decide
  second_le := by decide
  nano_lt := by decide

def sampleTarget : Descriptor := ⟨"m", "d", 2, none, none⟩

def sampleKeyBytes : List UInt8 :=
  [234, 74, 108, 99, 226, 156, 82, 10, 190, 245, 80, 123, 19, 46, 197, 249, 149, 71, 118, 174, 190,
    190, 123, 146, 66, 30, 234, 105, 20, 70, 210, 44]

/-- An envelope that was signed by the key of the sample. -/
def sampleDocument : ByteArray :=
  Json.encode
    (⟨MediaType.payload,
      Base64.encoded (Json.encode (⟨sampleTarget, sampleNow, none⟩ : Payload)).data.toList,
      [⟨"sha256:324be2dea8bc44461b0233e51fa48902ed6b1cc671e7739af2551e0bfe68f54e",
        "09yWCKCqkvPq/J2bequ8Afc1xACzTbMhR5IhbCy5+ni+" ++
          "O13co20A0ZkmvCReGjk2fvL/NEGvRGNgZMs4TQEjDw=="⟩]⟩ : Envelope)

def sampleStatement : Statement := ⟨"app", ["local/app"], .strict, .empty, ["team"]⟩

def sampleVerifier : KeyVerifier where
  policy := ⟨"1.0", [sampleStatement]⟩
  store := (PublicKey.ofBytes? sampleKeyBytes).elim .empty (TrustStore.empty.add "team")

set_option maxRecDepth 100000 in
/-- A strict statement accepts an envelope, and so its signature counts. -/
theorem verify_isOk_iff_sample :
    ∃ o, Accepts sampleVerifier sampleNow sampleStatement sampleTarget sampleDocument
      ⟨"local/app@d", ∅, 1, ∅⟩ o := by
  refine (verify_isOk_iff (by decide +kernel) (by decide)).1.mp ?_
  exact exists_ok_of_isOk (by decide +kernel)

end KeyVerifier

end ArtifactTrust
