import ArtifactTrust.Proofs.Json.Documents
import ArtifactTrust.Proofs.Verification.Isolation

/-!
# What is signed verifies

A signed envelope is opened to the payload that was signed, and its signature counts wherever the
key of the signer is trusted, because signer and store hash the same record of the key.
-/

namespace ArtifactTrust

set_option autoImplicit false

open Ed25519 Text

/-! ### Signing -/

theorem Ed25519.length_littleEndianBytes (size n : Nat) :
    (littleEndianBytes size n).length = size := by
  induction size generalizing n with
  | zero => rfl
  | succ size ih => rw [littleEndianBytes, List.length_cons, ih]

theorem Ed25519.SigningKey.length_sign (key : SigningKey) (message : List UInt8) :
    (key.sign message).length = 64 := by
  unfold sign Point.encode
  rw [List.length_append, length_littleEndianBytes, length_littleEndianBytes]

theorem Ed25519.SigningKey.bytes_of_publicKey? {key : SigningKey} {signer : PublicKey}
    (h : key.publicKey? = some signer) : signer.bytes = key.publicBytes :=
  Signature.bytes_of_ofBytes? h

namespace Envelope

def message (p : Payload) : List UInt8 :=
  authenticated MediaType.payload (Json.encode p).data.toList

theorem opened_sign (p : Payload) (key : SigningKey) :
    opened (Json.encode (sign p key)) = .ok ⟨sign p key, (Json.encode p).data.toList, p⟩ :=
  opened_eq_ok_iff.mpr ⟨Envelope.faithful.decode?_encode (sign p key), rfl, nofun, rfl,
    Payload.faithful.decode?_encode p⟩

theorem openFor_sign {p : Payload} {target : Descriptor} (key : SigningKey)
    (matches? : p.checkTarget target = .ok ()) :
    openFor target (Json.encode (sign p key)) =
      .ok ⟨sign p key, (Json.encode p).data.toList, p⟩ := by
  unfold openFor
  rw [opened_sign]
  simp only [matches?]

end Envelope

namespace KeyVerifier

variable {v : KeyVerifier} {now : Time.Instant} {s : Statement} {target : Descriptor}
  {document : ByteArray} {options : VerifyOptions} {p : Payload}

/-- The signature counts where the key is found under its id. -/
theorem authentic_sign {o : Envelope.Opened} {key : SigningKey} {signer : PublicKey}
    (envelope : o.envelope = Envelope.sign p key) (content : o.content = (Json.encode p).data.toList)
    (found : (v.store.keysIn s.trustStores).lookup (Signature.keyId key.publicBytes) = some signer)
    (verifies : signer.verifies (Envelope.message p) (key.sign (Envelope.message p)) = true) :
    v.unauthentic? s o = none := by
  rw [unauthentic?_eq_none_iff, envelope, content]
  exact ⟨_, List.mem_singleton_self _, key.sign (Envelope.message p), signer, rfl,
    key.length_sign _, TrustStore.lookup_keysIn_iff.mp found, verifies⟩

theorem exists_settle_clean (check : Check) (action : Action) :
    ∃ results, CheckResult.settle check action none = .ok results ∧
      ∀ r ∈ results, r.failure = none := by
  obtain ⟨results, settled⟩ :=
    (CheckResult.exists_settle_iff check).mpr fun (_ : action = .enforce) => rfl
  exact ⟨results, settled, fun r mem => by rw [CheckResult.eq_of_mem_settle settled mem]⟩

/-- An envelope that passes every check is accepted, with a clean result for each. -/
theorem exists_judge_clean {o : Envelope.Opened}
    (opened : Envelope.openFor target document = .ok o) (authentic : v.unauthentic? s o = none)
    (unexpired : o.payload.expired? now = none)
    (metadata : o.payload.checkMetadata options.userMetadata.entries = .ok ()) :
    ∃ outcome, v.judge now s target document options = .ok outcome ∧
      (∀ r ∈ outcome.results, r.failure = none) ∧ outcome.payload = some o.payload := by
  obtain ⟨authenticity, ha, first⟩ := exists_settle_clean .authenticity (s.action .authenticity)
  obtain ⟨expiry, he, second⟩ := exists_settle_clean .expiry (s.action .expiry)
  rw [← authentic] at ha
  rw [← unexpired] at he
  refine ⟨_, judge_eq_ok_iff.mpr ⟨o, authenticity, expiry, opened, ha, he, metadata, rfl⟩, ?_, rfl⟩
  intro r mem
  rcases List.mem_cons.mp mem with rfl | mem
  · rfl
  rcases List.mem_append.mp mem with mem | mem
  · exact first r mem
  · exact second r mem

/-- A payload says of an artifact what is asked for, under a statement that does not skip
verification, and has not expired. -/
structure Suits (policy : Policy) (s : Statement) (now : Time.Instant) (target : Descriptor)
    (options : VerifyOptions) (p : Payload) : Prop where
  governs : policy.statement? options.reference = some s
  judges : s.level ≠ .skip
  digest : p.target.digest = target.digest
  size : p.target.size = target.size
  mediaType : p.target.mediaType = target.mediaType
  metadata : ∀ name text, options.userMetadata.get? name = some text →
    p.target.annotation? name = some text
  unexpired : ∀ expiry, p.expiresAt = some expiry → ¬ expiry ≤ now

/-- What is signed is opened to the payload that was signed, with the bytes that the signature is
about, made under the SHA-256 of the key's record. And where the payload suits, and a store that the
statement names holds the public key, for which the signature of these bytes verifies, the envelope
is accepted with nothing to report, unless SHA-256 collides on the record of that key and the record
of another key in these stores. -/
theorem signed_verifies (p : Payload) (key : SigningKey) :
    (∃ o, Envelope.opened (Json.encode (Envelope.sign p key)) = .ok o ∧ o.payload = p ∧
      o.envelope.signatures =
        [⟨"sha256:" ++ Text.hex (Hash.sha256.ofWhole (Signature.keyRecord key.publicBytes)),
          Base64.encoded
            (key.sign (Envelope.authenticated o.envelope.payloadType o.content))⟩]) ∧
    ∀ (policy : Policy) (s : Statement) (additions : List (String × PublicKey)) (store : String)
      (signer : PublicKey) (now : Time.Instant) (target : Descriptor) (options : VerifyOptions),
      Suits policy s now target options p →
      store ∈ s.trustStores → (TrustStore.ofAdditions additions).Holds store signer →
      signer.bytes = key.publicBytes →
      signer.verifies (Envelope.message p) (key.sign (Envelope.message p)) = true →
      (∃ outcome, (KeyVerifier.mk policy (.ofAdditions additions)).verify now target
          (Json.encode (Envelope.sign p key)) options = .ok outcome ∧
        (∀ r ∈ outcome.results, r.failure = none) ∧ outcome.payload = some p) ∨
      (TrustStore.ofAdditions additions).Collision s.trustStores signer := by
  rw [← Signature.keyId_eq]
  refine ⟨⟨_, Envelope.opened_sign p key, rfl, rfl⟩, ?_⟩
  intro policy s additions store signer now target options suits named held own verifies
  rcases TrustStore.lookup_keysIn_of_holds (TrustStore.filed_ofAdditions additions) named held
    with found | collision
  · refine .inl ?_
    rw [own] at found
    have opened := Envelope.openFor_sign key
      (Payload.checkTarget_eq_ok_iff.mpr ⟨suits.digest, suits.size, suits.mediaType⟩)
    have metadata : p.checkMetadata options.userMetadata.entries = .ok () := by
      apply Payload.checkMetadata_eq_ok_iff.mpr
      rintro ⟨name, text⟩ mem
      exact suits.metadata name text (NameMap.get?_eq_some_iff_mem.mpr mem)
    obtain ⟨outcome, judged, clean, payload⟩ := exists_judge_clean opened
      (authentic_sign (v := ⟨policy, .ofAdditions additions⟩) rfl rfl found verifies)
      (Payload.expired?_eq_none_iff.mpr suits.unexpired) metadata
    refine ⟨outcome, ?_, clean, payload⟩
    rw [verify_of_governed suits.governs suits.judges, judged]
    rfl
  · exact .inr collision

/-! A key of its own in the store of the team, and a payload with an annotation and an expiry. -/

def signingKey : SigningKey := ⟨List.replicate 32 1⟩

def signedLabels : Labels := NameMap.empty.insert "line\n" "\"quoted\""

def signedPayload : Payload where
  target := { sampleTarget with annotations := some signedLabels }
  signedAt := sampleNow
  expiresAt := some { sampleNow with second := 60, second_le := by decide }

def signedOptions : VerifyOptions := ⟨"local/app@d", ∅, 1, signedLabels⟩

set_option maxRecDepth 100000 in
theorem signedPayload_suits :
    Suits sampleVerifier.policy sampleStatement sampleNow sampleTarget signedOptions
      signedPayload where
  governs := by decide +kernel
  judges := by decide
  digest := rfl
  size := rfl
  mediaType := rfl
  metadata _ _ asked := asked
  unexpired expiry same := by
    cases same
    decide

set_option maxRecDepth 100000 in
theorem signed_verifies_team :
    ∃ signer, signingKey.publicKey? = some signer ∧ ∃ outcome,
      (KeyVerifier.mk sampleVerifier.policy (.ofAdditions [("team", signer)])).verify sampleNow
        sampleTarget (Json.encode (Envelope.sign signedPayload signingKey)) signedOptions =
          .ok outcome ∧
      (∀ r ∈ outcome.results, r.failure = none) ∧ outcome.payload = some signedPayload := by
  have good : signingKey.publicKey?.any (fun signer => signer.verifies
      (Envelope.message signedPayload) (signingKey.sign (Envelope.message signedPayload))) =
        true := by
    decide +kernel
  cases known : signingKey.publicKey? with
  | none =>
    rw [known] at good
    cases good
  | some signer =>
    rw [known, Option.any_some] at good
    have single {name : String} {key : PublicKey}
        (held : (TrustStore.ofAdditions [("team", signer)]).Holds name key) : key = signer := by
      rcases TrustStore.holds_of_foldl held with ⟨id, kept⟩ | mem
      · cases kept
      · exact (Prod.mk.inj (List.mem_singleton.mp mem)).2
    have held : (TrustStore.ofAdditions [("team", signer)]).Holds "team" signer :=
      (TrustStore.holds_ofAdditions_iff (by simp)).mpr (List.mem_singleton_self _)
    have own := SigningKey.bytes_of_publicKey? known
    refine ⟨signer, rfl, ?_⟩
    rcases (signed_verifies signedPayload signingKey).2 sampleVerifier.policy sampleStatement
      [("team", signer)] "team" signer sampleNow sampleTarget signedOptions signedPayload_suits
      (List.mem_singleton_self _) held own good with accepted | collision
    · exact accepted
    · obtain ⟨name, -, other, kept, differs, -⟩ := collision
      rw [single kept] at differs
      exact absurd rfl differs

end KeyVerifier

end ArtifactTrust
