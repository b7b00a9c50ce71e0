import ArtifactTrust.Content.Manifest
import ArtifactTrust.Policy.Document
import ArtifactTrust.Proofs.Json.Records
import ArtifactTrust.Proofs.Time.Text
import ArtifactTrust.Signature.Envelope

/-!
# Reading written documents

Descriptors, manifests, indexes, payloads, envelopes and policies are read as they were written. The
reader takes many documents for one value, so it is the value that comes back.
-/

namespace ArtifactTrust

set_option autoImplicit false

open Json Json.Value

theorem Descriptor.toValue_eq (d : Descriptor) :
    d.toValue = record ["mediaType", "digest", "size", "artifactType", "annotations"]
      [some (.ofString d.mediaType), some (.ofString d.digest), some (.natural d.size.toNat),
        d.artifactType.map .ofString, d.annotations.map .ofLabels] := by
  unfold toValue
  cases d.artifactType <;> cases d.annotations <;> rfl

theorem Descriptor.faithful : Faithful Descriptor.ofValue? Descriptor.toValue where
  legible d := by
    rw [toValue_eq]
    exact legible_record ⟨faithful_string.legible_some d.mediaType,
      faithful_string.legible_some d.digest, faithful_uint64.legible_some d.size,
      faithful_string.legible_map d.artifactType, faithful_labels.legible_map d.annotations⟩
  given _ := nofun
  reads d := by
    unfold ofValue?
    rw [toValue_eq, fields?_record (by decide) rfl]
    simp only [Option.bind_eq_bind, Option.bind_some, faithful_string.required,
      faithful_uint64.required, faithful_string.optional, faithful_labels.optional]
    rfl

theorem Manifest.toValue_eq (m : Manifest) :
    m.toValue = record
      ["schemaVersion", "mediaType", "artifactType", "config", "layers", "subject", "annotations"]
      [some (.natural m.schemaVersion.toNat), m.mediaType.map .ofString,
        m.artifactType.map .ofString, some m.config.toValue,
        some (.array (m.layers.map Descriptor.toValue)), m.subject.map Descriptor.toValue,
        m.annotations.map .ofLabels] := by
  unfold toValue
  cases m.mediaType <;> cases m.artifactType <;> cases m.subject <;> cases m.annotations <;> rfl

theorem Manifest.faithful : Faithful Manifest.ofValue? Manifest.toValue where
  legible m := by
    rw [toValue_eq]
    exact legible_record ⟨faithful_uint32.legible_some m.schemaVersion,
      faithful_string.legible_map m.mediaType, faithful_string.legible_map m.artifactType,
      Descriptor.faithful.legible_some m.config, Descriptor.faithful.list.legible_some m.layers,
      Descriptor.faithful.legible_map m.subject, faithful_labels.legible_map m.annotations⟩
  given _ := nofun
  reads m := by
    unfold ofValue?
    rw [toValue_eq, fields?_record (by decide) rfl]
    simp only [Option.bind_eq_bind, Option.bind_some, faithful_uint32.required,
      faithful_string.optional, Descriptor.faithful.required, Descriptor.faithful.list.orDefault,
      Descriptor.faithful.optional, faithful_labels.optional]
    rfl

theorem Index.toValue_eq (i : Index) :
    i.toValue = record ["schemaVersion", "mediaType", "manifests"]
      [some (.natural i.schemaVersion.toNat), i.mediaType.map .ofString,
        some (.array (i.manifests.map Descriptor.toValue))] := by
  unfold toValue
  cases i.mediaType <;> rfl

theorem Index.faithful : Faithful Index.ofValue? Index.toValue where
  legible i := by
    rw [toValue_eq]
    exact legible_record ⟨faithful_uint32.legible_some i.schemaVersion,
      faithful_string.legible_map i.mediaType, Descriptor.faithful.list.legible_some i.manifests⟩
  given _ := nofun
  reads i := by
    unfold ofValue?
    rw [toValue_eq, fields?_record (by decide) rfl]
    simp only [Option.bind_eq_bind, Option.bind_some, faithful_uint32.required,
      faithful_string.optional, Descriptor.faithful.list.orDefault]
    rfl

theorem faithful_instant : Faithful Payload.asInstant? fun i => .ofString i.text where
  legible i := faithful_string.legible i.text
  given _ := nofun
  reads i := by
    unfold Payload.asInstant?
    rw [faithful_string.reads, Option.bind_eq_bind, Option.bind_some, i.parse?_text]

theorem Payload.toValue_eq (p : Payload) :
    p.toValue = record ["targetArtifact", "signedAt", "expiresAt"]
      [some p.target.toValue, some (.ofString p.signedAt.text),
        p.expiresAt.map fun i => .ofString i.text] := by
  unfold toValue
  cases p.expiresAt <;> rfl

theorem Payload.faithful : Faithful Payload.ofValue? Payload.toValue where
  legible p := by
    rw [toValue_eq]
    exact legible_record ⟨Descriptor.faithful.legible_some p.target,
      faithful_instant.legible_some p.signedAt, faithful_instant.legible_map p.expiresAt⟩
  given _ := nofun
  reads p := by
    unfold ofValue?
    rw [toValue_eq, fields?_record (by decide) rfl]
    simp only [Option.bind_eq_bind, Option.bind_some, Descriptor.faithful.required,
      faithful_instant.required, faithful_instant.optional]
    rfl

theorem KeySignature.toValue_eq (s : KeySignature) :
    s.toValue = record ["keyid", "sig"] [some (.ofString s.keyId), some (.ofString s.signature)] :=
  rfl

theorem KeySignature.faithful : Faithful KeySignature.ofValue? KeySignature.toValue where
  legible s := by
    rw [toValue_eq]
    exact legible_record ⟨faithful_string.legible_some s.keyId,
      faithful_string.legible_some s.signature⟩
  given _ := nofun
  reads s := by
    unfold ofValue?
    rw [toValue_eq, fields?_record (by decide) rfl]
    simp only [Option.bind_eq_bind, Option.bind_some, faithful_string.required]
    rfl

theorem Envelope.toValue_eq (e : Envelope) :
    e.toValue = record ["payloadType", "payload", "signatures"]
      [some (.ofString e.payloadType), some (.ofString e.payload),
        some (.array (e.signatures.map KeySignature.toValue))] := rfl

theorem Envelope.faithful : Faithful Envelope.ofValue? Envelope.toValue where
  legible e := by
    rw [toValue_eq]
    exact legible_record ⟨faithful_string.legible_some e.payloadType,
      faithful_string.legible_some e.payload, KeySignature.faithful.list.legible_some e.signatures⟩
  given _ := nofun
  reads e := by
    unfold ofValue?
    rw [toValue_eq, fields?_record (by decide) rfl]
    simp only [Option.bind_eq_bind, Option.bind_some, faithful_string.required,
      KeySignature.faithful.list.required]
    rfl

/-! ### Policies -/

theorem Check.ofName?_name (c : Check) : Check.ofName? c.name = some c := by
  cases c <;> rfl

theorem Action.ofName?_name (a : Action) : Action.ofName? a.name = some a := by
  cases a <;> rfl

theorem Level.ofName?_name (l : Level) : Level.ofName? l.name = some l := by
  cases l <;> rfl

theorem Action.faithful : Faithful (Record.ofValue? (α := Action)) Record.toValue :=
  faithful_name ofName?_name

theorem Level.faithful : Faithful (Record.ofValue? (α := Level)) Record.toValue :=
  faithful_name ofName?_name

theorem Overrides.toValue_eq (o : Overrides) :
    o.toValue = record [Check.integrity.name, Check.authenticity.name, Check.expiry.name]
      [o.integrity.map Record.toValue, o.authenticity.map Record.toValue,
        o.expiry.map Record.toValue] := by
  unfold toValue
  cases o.integrity <;> cases o.authenticity <;> cases o.expiry <;> rfl

theorem Overrides.ofMembers?_cons (o : Overrides) (check : Check) (action : Action)
    (rest : List (String × Value)) :
    o.ofMembers? ((check.name, Record.toValue action) :: rest) =
      (o.insert check action).ofMembers? rest := by
  rw [ofMembers?, Check.ofName?_name, Action.faithful.reads]
  rfl

theorem Overrides.ofValue?_object (members : List (String × Value)) :
    ofValue? (.object (members.map fun m => member m.1 m.2)) = empty.ofMembers? members := by
  rw [ofValue?, namedMembers?_map, Option.bind_eq_bind, Option.bind_some]

theorem Overrides.faithful : Faithful Overrides.ofValue? Overrides.toValue where
  legible o := by
    rw [toValue_eq]
    exact legible_record ⟨Action.faithful.legible_map o.integrity,
      Action.faithful.legible_map o.authenticity, Action.faithful.legible_map o.expiry⟩
  given _ := nofun
  reads o := by
    obtain ⟨integrity, authenticity, expiry⟩ := o
    rw [toValue_eq, record, ofValue?_object]
    cases integrity <;> cases authenticity <;> cases expiry <;>
      simp only [given, List.zip_cons_cons, List.zip_nil_left, List.filterMap_cons,
        List.filterMap_nil, Option.map_some, Option.map_none, ofMembers?_cons] <;>
      rfl

/-- A level with its overrides, which are left out where there are none. -/
def Statement.strictnessValue (s : Level × Overrides) : Value :=
  record ["level", "override"]
    [some (Record.toValue s.1), if s.2 = .empty then none else some s.2.toValue]

theorem Statement.faithful_strictness : Faithful strictness? strictnessValue where
  legible s :=
    legible_record ⟨Level.faithful.legible_some s.1, Overrides.faithful.legible_ite _ s.2⟩
  given _ := nofun
  reads s := by
    unfold strictness? strictnessValue
    rw [fields?_record (by decide) rfl]
    simp only [Option.bind_eq_bind, Option.bind_some, Level.faithful.required,
      Overrides.faithful.orDefault_ite]
    rfl

theorem Statement.toValue_eq (s : Statement) :
    s.toValue = record ["name", "registryScopes", "signatureVerification", "trustStores"]
      [some (.ofString s.name), some (.array (s.scopes.map .ofString)),
        some (strictnessValue (s.level, s.overrides)),
        some (.array (s.trustStores.map .ofString))] := by
  unfold toValue strictnessValue
  by_cases usual : s.overrides = .empty
  · simp only [usual, if_true]
    rfl
  · simp only [usual, if_false]
    rfl

theorem Statement.faithful : Faithful Statement.ofValue? Statement.toValue where
  legible s := by
    rw [toValue_eq]
    exact legible_record ⟨faithful_string.legible_some s.name,
      faithful_string.list.legible_some s.scopes, faithful_strictness.legible_some _,
      faithful_string.list.legible_some s.trustStores⟩
  given _ := nofun
  reads s := by
    unfold ofValue?
    rw [toValue_eq, fields?_record (by decide) rfl]
    simp only [Option.bind_eq_bind, Option.bind_some, faithful_string.required,
      faithful_string.list.required, faithful_strictness.required, faithful_string.list.orDefault]
    rfl

theorem Policy.toValue_eq (p : Policy) :
    p.toValue = record ["version", "trustPolicies"]
      [some (.ofString p.version), some (.array (p.statements.map Statement.toValue))] := rfl

theorem Policy.faithful : Faithful Policy.ofValue? Policy.toValue where
  legible p := by
    rw [toValue_eq]
    exact legible_record ⟨faithful_string.legible_some p.version,
      Statement.faithful.list.legible_some p.statements⟩
  given _ := nofun
  reads p := by
    unfold ofValue?
    rw [toValue_eq, fields?_record (by decide) rfl]
    simp only [Option.bind_eq_bind, Option.bind_some, faithful_string.required,
      Statement.faithful.list.required]
    rfl

/-! ### Documents -/

/-- Every value is read from the document that is written of it. So what was read from a document,
however that was spelled, is read again from what is written of it, and is written as before. -/
def Json.Restores (α : Type) [Record α] : Prop :=
  (∀ a : α, decode? (encode a) = some a) ∧
    ∀ (document : ByteArray) (a : α), decode? document = some a →
      ∃ again : α, decode? (encode a) = some again ∧ again = a ∧ encode again = encode a

theorem Json.Value.Faithful.restores {α : Type} [Record α]
    (faithful : Faithful (Record.ofValue? (α := α)) Record.toValue) : Restores α := by
  refine ⟨faithful.decode?_encode, ?_⟩
  intro document a _
  exact ⟨a, faithful.decode?_encode a, rfl, rfl⟩

theorem documents_restored :
    Restores Descriptor ∧ Restores Manifest ∧ Restores Index ∧ Restores Envelope ∧
      Restores Payload ∧ Restores Policy :=
  ⟨Descriptor.faithful.restores, Manifest.faithful.restores, Index.faithful.restores,
    Envelope.faithful.restores, Payload.faithful.restores, Policy.faithful.restores⟩

/-- A payload with a member that no payload has, a descriptor as an array with an escape in it, and
a leap second before the first year, where clocks were ahead. -/
def oddDocument : ByteArray :=
  ("\x7b\"extra\":[null],\"expiresAt\":null,\"signedAt\":\"-44-3-9t5:59:60.25 +06:00\"," ++
    "\"targetArtifact\":[\"a\\u002fb\",\"x\",18446744073709551615]\x7d").toUTF8

set_option maxRecDepth 100000 in
theorem documents_restored_odd :
    ∃ payload : Payload, decode? oddDocument = some payload ∧
      (payload.target.mediaType = "a/b" ∧ payload.signedAt.date.year = -44 ∧
        payload.signedAt.hour = 23 ∧ payload.signedAt.second = 60 ∧ payload.expiresAt = none) ∧
      ∃ again : Payload, decode? (encode payload) = some again ∧ again = payload ∧
        encode again = encode payload := by
  have odd : (decode? oddDocument).any (fun payload : Payload => decide
      (payload.target.mediaType = "a/b" ∧ payload.signedAt.date.year = -44 ∧
        payload.signedAt.hour = 23 ∧ payload.signedAt.second = 60 ∧
        payload.expiresAt = none)) = true := by
    decide +kernel
  obtain ⟨payload, read, parts⟩ := (Option.any_eq_true _ _).mp odd
  obtain ⟨-, -, -, -, restored, -⟩ := documents_restored
  exact ⟨payload, read, of_decide_eq_true parts, restored.2 oddDocument payload read⟩

end ArtifactTrust
