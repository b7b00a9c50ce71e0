import ArtifactTrust.Proofs.Policy.Selection
import ArtifactTrust.Proofs.Policy.TrustStore
import ArtifactTrust.Proofs.Verification.Masking

/-!
# Keys of other trust stores

What is made of an envelope depends on the keys of the trust stores that the governing statement
names, looked up by their ids, and on no other key.
-/

namespace ArtifactTrust

set_option autoImplicit false

open Ed25519 Text

/-! ### Keys by their ids -/

theorem KeySignature.firstGood_congr {keys others : List (String × PublicKey)}
    (alike : ∀ id, keys.lookup id = others.lookup id) (message : List UInt8)
    (fault : SignatureFault) (signatures : List KeySignature) :
    firstGood keys message fault signatures = firstGood others message fault signatures := by
  induction signatures generalizing fault with
  | nil => rfl
  | cons s rest ih =>
    have same : s.checkAmong keys message = s.checkAmong others message := by
      unfold checkAmong
      rw [alike]
    unfold firstGood
    rw [same]
    cases s.checkAmong others message with
    | ok u => rfl
    | error next => exact ih next

/-- The same statement with the names of its trust stores in another order or repeated. -/
def Statement.Relisted (s w : Statement) : Prop :=
  w = { s with trustStores := w.trustStores } ∧
    ∀ name, name ∈ s.trustStores ↔ name ∈ w.trustStores

/-- The same policy but for the order and the repetition of names of trust stores. -/
structure Policy.Relisted (p q : Policy) : Prop where
  version : q.version = p.version
  statements : List.Forall₂ Statement.Relisted p.statements q.statements

theorem Policy.Relisted.statement? {p q : Policy} (relisted : p.Relisted q) (reference : String) :
    Option.Rel Statement.Relisted (p.statement? reference) (q.statement? reference) := by
  refine statement?_forall₂ relisted.statements (fun s w h scope => ?_) reference
  rw [h.1]

namespace KeyVerifier

variable {v u : KeyVerifier} {s w : Statement} {now : Time.Instant} {target : Descriptor}
  {document : ByteArray} {options : VerifyOptions}

theorem unauthentic?_congr (alike : ∀ id, (v.store.keysIn s.trustStores).lookup id =
    (u.store.keysIn w.trustStores).lookup id) (o : Envelope.Opened) :
    v.unauthentic? s o = u.unauthentic? w o := by
  unfold unauthentic? Envelope.signer
  rw [KeySignature.firstGood_congr alike]

/-- Two verifiers with the same keys by their ids, under statements that differ in nothing but the
names of trust stores, judge alike. -/
theorem verify_congr
    (governed : Option.Rel (fun s w => w = { s with trustStores := w.trustStores } ∧
        ∀ id, (v.store.keysIn s.trustStores).lookup id =
          (u.store.keysIn w.trustStores).lookup id)
      (v.policy.statement? options.reference) (u.policy.statement? options.reference)) :
    u.verify now target document options = v.verify now target document options := by
  unfold verify statement
  revert governed
  generalize v.policy.statement? options.reference = a
  generalize u.policy.statement? options.reference = b
  intro governed
  cases governed with
  | none => rfl
  | @some s w h =>
    obtain ⟨same, alike⟩ := h
    have level : w.level = s.level := by rw [same]
    have action (check : Check) : w.action check = s.action check := by
      unfold Statement.action
      rw [same]
    have judged : u.judge now w target document options = v.judge now s target document options := by
      unfold judge
      simp only [level, action, unauthentic?_congr alike]
    rw [bind_ok, bind_ok, level, judged]

/-- What makes a signature count is a key that a store of that name holds, under whose id the
signature was made. -/
theorem held_of_counts {signature : KeySignature} {t : TrustStore} {names : List String}
    {message : List UInt8} (filed : t.Filed) (counts : signature.Counts t names message) :
    ∃ name ∈ names, ∃ key, t.Holds name key ∧ signature.keyId = Signature.keyId key.bytes ∧
      ∃ bytes, signature.signature = Base64.encoded bytes ∧ bytes.length = 64 ∧
        key.verifies message bytes = true := by
  obtain ⟨bytes, key, canonical, size, first, verifies⟩ := counts
  obtain ⟨name, named, held⟩ :=
    TrustStore.exists_of_lookup_keysIn (TrustStore.lookup_keysIn_iff.mpr first)
  exact ⟨name, named, key, ⟨_, held⟩, filed _ _ _ held, bytes, canonical, size, verifies⟩

theorem counts_of_reported {outcome : Outcome} {action : Action}
    (accepted : v.verify now target document options = .ok outcome)
    (reported : ⟨.authenticity, action, none⟩ ∈ outcome.results) :
    ∃ s o, v.policy.statement? options.reference = some s ∧ s.level ≠ .skip ∧
      Envelope.IsFor target document o ∧ outcome.payload = some o.payload ∧
      ∃ signature ∈ o.envelope.signatures, signature.Counts v.store s.trustStores
        (Envelope.authenticated o.envelope.payloadType o.content) := by
  cases governs : v.policy.statement? options.reference with
  | none =>
    unfold verify statement at accepted
    rw [governs] at accepted
    cases accepted
  | some s =>
    by_cases skips : s.level = .skip
    · unfold verify at accepted
      rw [statement_eq_ok_iff.mpr governs, bind_ok, if_pos skips] at accepted
      cases accepted
      cases reported
    · rw [verify_of_governed governs skips] at accepted
      cases judged : v.judge now s target document options with
      | error rejection =>
        rw [judged] at accepted
        cases accepted
      | ok found =>
        rw [judged] at accepted
        cases accepted
        obtain ⟨o, authenticity, expiry, opened, ha, he, -, rfl⟩ := judge_eq_ok_iff.mp judged
        refine ⟨s, o, rfl, skips, Envelope.openFor_eq_ok_iff.mp opened, rfl, ?_⟩
        rcases List.mem_cons.mp reported with integrity | reported
        · cases integrity
        rcases List.mem_append.mp reported with own | other
        · have same := CheckResult.eq_of_mem_settle ha own
          exact unauthentic?_eq_none_iff.mp (CheckResult.mk.inj same).2.2.symm
        · cases CheckResult.eq_of_mem_settle he other

/-- Trust stores are kept apart. What is made of an envelope is a matter of the keys in the stores
that the governing statement names, whatever other stores hold and however the keys got there.
Where no two keys share an id, the order and the repetition of these names do not matter either.
And what is reported authentic was signed by a key in one of these stores. -/
theorem verify_isolated (policy : Policy) (additions : List (String × PublicKey))
    (now : Time.Instant) (target : Descriptor) (document : ByteArray) (options : VerifyOptions) :
    (∀ others : List (String × PublicKey),
      (∀ s, policy.statement? options.reference = some s → ∀ name ∈ s.trustStores, ∀ key,
        (TrustStore.ofAdditions additions).Holds name key ↔
          (TrustStore.ofAdditions others).Holds name key) →
      (KeyVerifier.mk policy (.ofAdditions others)).verify now target document options =
        (KeyVerifier.mk policy (.ofAdditions additions)).verify now target document options) ∧
    (∀ relisted : Policy, policy.Relisted relisted →
      (TrustStore.ofAdditions additions).DistinctIds →
      (KeyVerifier.mk relisted (.ofAdditions additions)).verify now target document options =
        (KeyVerifier.mk policy (.ofAdditions additions)).verify now target document options) ∧
    (∀ outcome action,
      (KeyVerifier.mk policy (.ofAdditions additions)).verify now target document options =
        .ok outcome →
      ⟨.authenticity, action, none⟩ ∈ outcome.results →
      ∃ s o, policy.statement? options.reference = some s ∧ Envelope.IsFor target document o ∧
        ∃ signature ∈ o.envelope.signatures, ∃ name ∈ s.trustStores, ∃ key,
          (TrustStore.ofAdditions additions).Holds name key ∧
          signature.keyId = Signature.keyId key.bytes ∧
          ∃ bytes, signature.signature = Base64.encoded bytes ∧ bytes.length = 64 ∧
            key.verifies (Envelope.authenticated o.envelope.payloadType o.content) bytes = true) := by
  have filed := TrustStore.filed_ofAdditions additions
  refine ⟨?_, ?_, ?_⟩
  · intro others same
    apply verify_congr
    cases governs : policy.statement? options.reference with
    | none => exact .none
    | some s =>
      refine .some ⟨rfl, fun id => ?_⟩
      rw [TrustStore.keysIn_eq_of_holds filed (TrustStore.filed_ofAdditions others)
        (same s governs)]
  · intro relisted moved distinct
    apply verify_congr
    have governed := moved.statement? options.reference
    revert governed
    generalize policy.statement? options.reference = a
    generalize relisted.statement? options.reference = b
    intro governed
    cases governed with
    | none => exact .none
    | some h =>
      exact .some ⟨h.1, TrustStore.lookup_keysIn_eq_of_names filed distinct h.2⟩
  · intro outcome action accepted reported
    obtain ⟨s, o, governs, -, isFor, -, signature, mem, counts⟩ :=
      counts_of_reported accepted reported
    obtain ⟨name, named, key, held, own, good⟩ := held_of_counts filed counts
    exact ⟨s, o, governs, isFor, signature, mem, name, named, key, held, own, good⟩

def guestKeyBytes : List UInt8 := 0x58 :: List.replicate 31 0x66

set_option maxRecDepth 100000 in
theorem sample_reported : ∃ outcome,
    sampleVerifier.verify sampleNow sampleTarget sampleDocument attachedOptions = .ok outcome ∧
      ⟨.authenticity, .enforce, none⟩ ∈ outcome.results := by
  have reported : (sampleVerifier.verify sampleNow sampleTarget sampleDocument
      attachedOptions).toOption.any
        (fun outcome => decide (⟨.authenticity, .enforce, none⟩ ∈ outcome.results)) = true := by
    decide +kernel
  cases h : sampleVerifier.verify sampleNow sampleTarget sampleDocument attachedOptions with
  | error cause =>
    rw [h] at reported
    cases reported
  | ok outcome =>
    rw [h] at reported
    exact ⟨outcome, rfl, of_decide_eq_true reported⟩

section Guest

variable {key guest : PublicKey} {additions : List (String × PublicKey)}

theorem guest_id_ne (own : PublicKey.ofBytes? sampleKeyBytes = some key)
    (other : PublicKey.ofBytes? guestKeyBytes = some guest) :
    Signature.keyId key.bytes ≠ Signature.keyId guest.bytes := by
  rw [Signature.bytes_of_ofBytes? own,
    Signature.bytes_of_ofBytes? other]
  decide +kernel

/-- Whatever is added of two keys of different ids, no two keys share an id. -/
theorem distinct_of_two (differ : Signature.keyId key.bytes ≠ Signature.keyId guest.bytes)
    (two : ∀ a ∈ additions, a.2 = key ∨ a.2 = guest) :
    ∀ a ∈ additions, ∀ b ∈ additions,
      Signature.keyId a.2.bytes = Signature.keyId b.2.bytes → a.2 = b.2 := by
  intro a ha b hb same
  rcases two a ha with first | first <;> rcases two b hb with second | second
  · rw [first, second]
  · rw [first, second] at same
    exact absurd same differ
  · rw [first, second] at same
    exact absurd same.symm differ
  · rw [first, second]

theorem sampleVerifier_eq (own : PublicKey.ofBytes? sampleKeyBytes = some key) :
    sampleVerifier = ⟨sampleVerifier.policy, .ofAdditions [("team", key)]⟩ := by
  unfold sampleVerifier
  rw [own]
  rfl

theorem attached_trustStores {s : Statement}
    (governs : sampleVerifier.policy.statement? attachedOptions.reference = some s) :
    s.trustStores = ["team"] := by
  rw [attached_governed] at governs
  cases governs
  rfl

/-- The statement that governs the sample asks for nothing but the keys of the team. -/
theorem attached_holds_iff {others : List (String × PublicKey)}
    (differ : Signature.keyId key.bytes ≠ Signature.keyId guest.bytes)
    (two : ∀ a ∈ additions, a.2 = key ∨ a.2 = guest)
    (two' : ∀ a ∈ others, a.2 = key ∨ a.2 = guest)
    (same : ∀ k, ("team", k) ∈ additions ↔ ("team", k) ∈ others) :
    ∀ s, sampleVerifier.policy.statement? attachedOptions.reference = some s →
      ∀ name ∈ s.trustStores, ∀ k, (TrustStore.ofAdditions additions).Holds name k ↔
        (TrustStore.ofAdditions others).Holds name k := by
  intro s governs name named k
  rw [attached_trustStores governs, List.mem_singleton] at named
  rw [TrustStore.holds_ofAdditions_iff (distinct_of_two differ two),
    TrustStore.holds_ofAdditions_iff (distinct_of_two differ two'), named, same]

end Guest

/-- With a guest's key beside the team's, with the team's key added twice, and with the team named
twice, the sample is accepted as before, and it was the team's key that signed. -/
theorem verify_isolated_guest :
    ∃ key guest, PublicKey.ofBytes? sampleKeyBytes = some key ∧
      PublicKey.ofBytes? guestKeyBytes = some guest ∧
      ∃ outcome,
        (KeyVerifier.mk sampleVerifier.policy
          (.ofAdditions [("guests", guest), ("team", key)])).verify sampleNow sampleTarget
            sampleDocument attachedOptions = .ok outcome ∧
        (KeyVerifier.mk sampleVerifier.policy
          (.ofAdditions [("team", key), ("strangers", guest), ("team", key)])).verify sampleNow
            sampleTarget sampleDocument attachedOptions = .ok outcome ∧
        (KeyVerifier.mk ⟨"1.0", [{ sampleStatement with trustStores := ["team", "team"] }]⟩
          (.ofAdditions [("guests", guest), ("team", key)])).verify sampleNow sampleTarget
            sampleDocument attachedOptions = .ok outcome ∧
        ∃ o, Envelope.IsFor sampleTarget sampleDocument o ∧
          ∃ signature ∈ o.envelope.signatures, signature.keyId = Signature.keyId key.bytes := by
  obtain ⟨key, own⟩ : ∃ key, PublicKey.ofBytes? sampleKeyBytes = some key :=
    Option.isSome_iff_exists.mp (by decide +kernel)
  obtain ⟨guest, other⟩ : ∃ guest, PublicKey.ofBytes? guestKeyBytes = some guest :=
    Option.isSome_iff_exists.mp (by decide +kernel)
  have differ := guest_id_ne own other
  have two : ∀ a ∈ [("guests", guest), ("team", key)], a.2 = key ∨ a.2 = guest := by simp
  have distinct := distinct_of_two differ two
  obtain ⟨outcome, accepted, reported⟩ := sample_reported
  obtain ⟨others, relisted, signed⟩ := verify_isolated sampleVerifier.policy
    [("guests", guest), ("team", key)] sampleNow sampleTarget sampleDocument attachedOptions
  have alone := others [("team", key)]
    (attached_holds_iff differ (by simp) (by simp) (by simp))
  rw [← sampleVerifier_eq own, accepted] at alone
  have again := others [("team", key), ("strangers", guest), ("team", key)]
    (attached_holds_iff differ (by simp) (by simp) (by simp))
  have twice := relisted ⟨"1.0", [{ sampleStatement with trustStores := ["team", "team"] }]⟩
    ⟨rfl, .cons ⟨rfl, by simp [sampleStatement]⟩ .nil⟩
    (TrustStore.distinctIds_ofAdditions distinct)
  obtain ⟨s, o, governs, isFor, signature, mem, name, named, k, held, made, -⟩ :=
    signed outcome .enforce alone.symm reported
  refine ⟨key, guest, own, other, outcome, alone.symm, again.trans alone.symm,
    twice.trans alone.symm, o, isFor, signature, mem, ?_⟩
  rw [attached_trustStores governs, List.mem_singleton] at named
  rw [TrustStore.holds_ofAdditions_iff distinct, named] at held
  have mine : k = key := by simpa using held
  rw [made, mine]

end KeyVerifier

end ArtifactTrust
