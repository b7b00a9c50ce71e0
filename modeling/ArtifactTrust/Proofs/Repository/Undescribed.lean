import ArtifactTrust.Proofs.Repository.Addressing

/-!
# Manifests that nothing is said of

Where nothing is said of a digest the manifest is read. A layout hashes it under the algorithm of
the digest, a client of a registry under SHA-256 whatever the digest.
-/

namespace ArtifactTrust

set_option autoImplicit false

open Registry

variable {σ τ : Type} {reference digest encoded : String} {algorithm : Digest.Algorithm}
  {content : ByteArray} {s t u : σ}

/-! ### Registries -/

/-- It is not said which digest a manifest has, or not how long it is. -/
def Answer.LeavesOpen (a : Answer) : Prop :=
  a.headerValue? "docker-content-digest" = none ∨
    (a.headerValue? "content-length").bind (Text.unsigned? UInt64.size) = none

namespace RemoteRepository

variable {r : RemoteRepository} {network : Network (StateM σ)} {head : Answer}

/-- A registry leaves open what a manifest is, and then hands out all of it. -/
def Withholds (r : RemoteRepository) (network : Network (StateM σ)) (reference : String)
    (head : Answer) (content : ByteArray) (s u : σ) : Prop :=
  ∃ t whole,
    answer (request network r.settings .head (r.manifestUrl reference) manifestTypes
      (r.referenceText reference)) s = (.ok head, t) ∧
    head.LeavesOpen ∧
    answer (request network r.settings .get (r.manifestUrl reference) manifestTypes
      (r.referenceText reference)) t = (.ok whole, u) ∧
    whole.body = some content

theorem answer_describe {a : Answer} (leavesOpen : a.LeavesOpen)
    (loaded : answer (r.manifestContent network reference) s = (.ok content, t)) :
    answer (r.describe network reference a) s =
      (.ok (Digest.ofContent .sha256 content, UInt64.ofNat content.size), t) := by
  have measured : answer
      (do let content ← r.manifestContent network reference
          return (Digest.ofContent .sha256 content, UInt64.ofNat content.size)) s =
      (.ok (Digest.ofContent .sha256 content, UInt64.ofNat content.size), t) := by
    rw [answer_bind_of_ok loaded]
    rfl
  unfold describe
  rcases leavesOpen with undigested | unmeasured
  · simp only [undigested]
    exact measured
  · simp only [unmeasured]
    cases a.headerValue? "docker-content-digest" with
    | none => exact measured
    | some digest => exact measured

/-- A manifest that is left open is hashed under SHA-256, whatever the reference is. -/
theorem Withholds.answer_resolve (withholds : r.Withholds network reference head content s u) :
    answer (r.resolve network reference) s =
      (if isDigest reference && decide (Digest.ofContent .sha256 content ≠ reference) then
          .error (.digestMismatch reference (Digest.ofContent .sha256 content))
        else .ok (.ofContent
          ((head.headerValue? "content-type").getD MediaType.imageManifest) content), u) := by
  obtain ⟨t, whole, asked, leavesOpen, fetched, read⟩ := withholds
  have loaded : answer (r.manifestContent network reference) t = (.ok content, u) := by
    unfold manifestContent body
    rw [answer_bind_of_ok fetched, read]
    rfl
  unfold resolve
  rw [answer_bind_of_ok asked]
  simp only
  rw [answer_bind_of_ok (answer_describe leavesOpen loaded)]
  simp only
  split
  · rfl
  · rfl

end RemoteRepository

/-! ### Image layouts -/

namespace Layout

variable {l : Layout} {files : Files (StateM σ)}

/-- The index does not list a digest, and there is a file for it. -/
def Harbors (l : Layout) (files : Files (StateM σ)) (digest : String) (content : ByteArray)
    (s u : σ) : Prop :=
  ∃ t index algorithm encoded,
    answer (l.index files) s = (.ok index, t) ∧
    (∀ entry ∈ index.manifests, entry.digest ≠ digest) ∧
    Digest.parse digest = .ok (algorithm, encoded) ∧
    answer (files.read (l.blobPath algorithm encoded)) t = (.ok content, u)

/-- A manifest says of itself which kind it is. -/
def typed (content : ByteArray) (d : Descriptor) : Except RepositoryError Descriptor :=
  match mediaType? content with
  | some mediaType => .ok { d with mediaType := mediaType.getD MediaType.imageManifest }
  | none => .error (Fault.notManifest d.digest).error

theorem describe_eq (l : Layout) (files : Files (StateM σ)) (digest mediaType : String) :
    l.describe files digest = (l.fetch files digest >>= fun content => ExceptT.mk <| pure <|
      typed content ⟨mediaType, digest, UInt64.ofNat content.size, none, none⟩) := by
  unfold describe typed
  congr 1
  funext content
  cases mediaType? content with
  | some own => rfl
  | none => rfl

/-- The content in a file is checked under the algorithm of its digest, and looked into. -/
theorem Harbors.answer_resolve (harbors : l.Harbors files digest content s u) (mediaType : String) :
    answer (l.resolve files digest) s =
      ((Digest.verifyContent digest content).bind fun _ =>
        typed content ⟨mediaType, digest, UInt64.ofNat content.size, none, none⟩, u) := by
  obtain ⟨t, index, algorithm, encoded, listed, unlisted, parsed, read⟩ := harbors
  have colon : isDigest digest = true :=
    List.contains_iff_mem.mpr (Digest.WellFormed.colon_mem ⟨_, parsed⟩)
  have found : index.manifests.find? (isNamed digest) = none := by
    refine List.find?_eq_none.mpr fun entry mem => ?_
    simpa [isNamed, colon] using unlisted entry mem
  have fetched : answer (l.fetch files digest) t =
      ((Digest.verifyContent digest content).map fun _ => content, u) :=
    answer_fetch_of_parse parsed read
  unfold resolve
  rw [answer_bind_of_ok listed, found]
  simp only [colon, if_true]
  rw [describe_eq l files digest mediaType, answer_bind, fetched]
  cases Digest.verifyContent digest content with
  | ok done => rfl
  | error e => rfl

end Layout

/-! ### Both of them -/

/-- A digest of a manifest that a registry leaves open is resolved to a descriptor if the manifest
has the digest and its algorithm is SHA-256. Under any other algorithm it is refused, whatever the
manifest is. So for digests of that one algorithm a layout in which the manifest is not listed
comes to the same, once it has looked into the manifest for the media type. -/
theorem resolve_undescribed {r : RemoteRepository} {network : Network (StateM σ)} {head : Answer}
    (parsed : Digest.parse digest = .ok (algorithm, encoded))
    (withholds : r.Withholds network digest head content s u) :
    answer ((r.repository network).resolve digest) s =
      (if algorithm = .sha256 then
          (Digest.verifyContent digest content).map fun _ =>
            ⟨(head.headerValue? "content-type").getD MediaType.imageManifest, digest,
              UInt64.ofNat content.size, none, none⟩
        else .error (.digestMismatch digest (Digest.ofContent .sha256 content)), u) ∧
    ∀ (l : Layout) (files : Files (StateM τ)) (v w : τ), l.Harbors files digest content v w →
      (answer ((l.repository files).resolve digest) v).1 =
          ((Digest.verifyContent digest content).bind fun _ => Layout.typed content
            ⟨MediaType.imageManifest, digest, UInt64.ofNat content.size, none, none⟩) ∧
        (algorithm = .sha256 →
          (answer ((l.repository files).resolve digest) v).1 =
            (answer ((r.repository network).resolve digest) s).1.bind (Layout.typed content)) := by
  have colon : RemoteRepository.isDigest digest = true :=
    List.contains_iff_mem.mpr (Digest.WellFormed.colon_mem ⟨_, parsed⟩)
  have resolved : answer (r.resolve network digest) s =
      (if algorithm = .sha256 then
          (Digest.verifyContent digest content).map fun _ =>
            ⟨(head.headerValue? "content-type").getD MediaType.imageManifest, digest,
              UInt64.ofNat content.size, none, none⟩
        else .error (.digestMismatch digest (Digest.ofContent .sha256 content)), u) := by
    rw [withholds.answer_resolve, Digest.verifyContent_of_parse parsed]
    simp only [colon, Bool.true_and, decide_eq_true_eq]
    by_cases same : Digest.ofContent .sha256 content = digest
    · obtain rfl := Digest.algorithm_eq_of_ofContent parsed same
      simp only [same, ne_eq, not_true_eq_false, if_true, if_false]
      unfold Descriptor.ofContent
      rw [same]
      rfl
    · rw [if_pos same]
      by_cases plain : algorithm = .sha256
      · rw [if_pos plain, plain, if_neg same]
        rfl
      · rw [if_neg plain]
  refine ⟨resolved, fun l files v w harbors => ?_⟩
  change (answer (l.resolve files digest) v).1 = _ ∧
    (_ → (answer (l.resolve files digest) v).1 = (answer (r.resolve network digest) s).1.bind _)
  rw [harbors.answer_resolve MediaType.imageManifest, resolved]
  refine ⟨rfl, fun plain => ?_⟩
  rw [if_pos plain]
  cases Digest.verifyContent digest content with
  | ok done => rfl
  | error e => rfl

section Runs

open RemoteRepository (patientRepository answeringNetwork emptyDocument)

/-- A registry that answers with success and says nothing of the manifest, and then hands it out. -/
def taciturn : Nat → Answer
  | 0 => ⟨200, [], some .empty⟩
  | _ + 1 => ⟨200, [], some "{}".toUTF8⟩

theorem taciturn_withholds
    (buildable : ((patientRepository.manifestInquiry .get digest).request?
      patientRepository.settings).isSome = true) :
    patientRepository.Withholds (answeringNetwork taciturn) digest (taciturn 0) "{}".toUTF8
      0 2 := by
  obtain ⟨q, built⟩ := Option.isSome_iff_exists.mp buildable
  have asked (method : Method) (n : Nat) :
      answer (request (answeringNetwork taciturn) patientRepository.settings method
          (patientRepository.manifestUrl digest) RemoteRepository.manifestTypes
          (patientRepository.referenceText digest)) n = (.ok (taciturn n), n + 1) := by
    have alike := Inquiry.request?_withMethod patientRepository.settings
      (patientRepository.manifestInquiry .get digest) method
    rw [built] at alike
    have answered : ((answeringNetwork taciturn).send
        { q with method := method }).run n = (some (taciturn n), n + 1) := rfl
    have success : 200 ≤ (taciturn n).status ∧ (taciturn n).status < 300 := by
      have status : (taciturn n).status = 200 := by
        cases n with
        | zero => rfl
        | succ n => rfl
      omega
    have sent := answer_request_of_answered alike answered (.inl success)
    rw [judge_eq_ok_iff.mpr ⟨rfl, success⟩] at sent
    exact sent
  exact ⟨1, taciturn 1, asked .head 0, .inl rfl, asked .get 1, rfl⟩

theorem emptyDocument_buildable :
    ((patientRepository.manifestInquiry .get emptyDocument.digest).request?
      patientRepository.settings).isSome = true := by
  decide +kernel

theorem resolve_undescribed_taciturn :
    answer ((patientRepository.repository (answeringNetwork taciturn)).resolve
        emptyDocument.digest) 0 =
      (.ok ⟨MediaType.imageManifest, emptyDocument.digest, 2, none, none⟩, 2) := by
  have withholds := taciturn_withholds emptyDocument_buildable
  have verified : Digest.verifyContent emptyDocument.digest "{}".toUTF8 = .ok () := by
    rw [Digest.verifyContent_of_parse emptyDocument_parsed, if_pos emptyDocument_verified]
  have untyped : (taciturn 0).headerValue? "content-type" = none := rfl
  have size : UInt64.ofNat "{}".toUTF8.size = 2 := by decide +kernel
  obtain ⟨run, -⟩ := resolve_undescribed (τ := Unit) emptyDocument_parsed withholds
  rw [if_pos rfl, verified, untyped, size] at run
  exact run

def longEncoded : String :=
  "27c74670adb75075fad058d5ceaf7b20c4e7786c83bae8a32f626f9782af34c9" ++
    "a33c2046ef60fd2a7878d378e29fec851806bbd9a67878f3a9f1cda4830763fd"

def longDigest : String := "sha512:" ++ longEncoded

def longFiles : Files (StateM Unit) where
  read path := ExceptT.mk <| pure <|
    if path = "layout/index.json" then .ok (Json.encode Index.empty)
    else if path = "layout/blobs/sha512/" ++ longEncoded then .ok "{}".toUTF8
    else .error .missing
  list _ := ExceptT.mk (pure (.error .missing))

theorem longFiles_harbor :
    keptLayout.Harbors longFiles longDigest "{}".toUTF8 () () := by
  refine ⟨(), Index.empty, .sha512, longEncoded, ?_, nofun, ?_, ?_⟩
  · exact Prod.ext (by decide +kernel) rfl
  · exact Digest.parse_eq_ok_iff.mpr (by decide +kernel)
  · exact Prod.ext (by decide +kernel) rfl

/-- A manifest that has its digest under SHA-512 is found in a layout and refused from a registry
that leaves it open. -/
theorem refused_under_long_digest :
    Digest.verifyContent longDigest "{}".toUTF8 = .ok () ∧
    (answer ((keptLayout.repository longFiles).resolve longDigest) ()).1 =
      .ok ⟨MediaType.imageManifest, longDigest, 2, none, none⟩ ∧
    (answer ((patientRepository.repository (answeringNetwork taciturn)).resolve longDigest) 0).1 =
      .error (.digestMismatch longDigest emptyDocument.digest) := by
  have verified : Digest.verifyContent longDigest "{}".toUTF8 = .ok () := by decide +kernel
  have buildable : ((patientRepository.manifestInquiry .get longDigest).request?
      patientRepository.settings).isSome = true := by decide +kernel
  have unlike : (RemoteRepository.isDigest longDigest &&
      decide (emptyDocument.digest ≠ longDigest)) = true := by decide +kernel
  refine ⟨verified, ?_, ?_⟩
  · have resolved := longFiles_harbor.answer_resolve MediaType.imageManifest
    rw [verified] at resolved
    exact (congrArg Prod.fst resolved).trans (by decide +kernel)
  · have resolved := (taciturn_withholds buildable).answer_resolve
    rw [emptyDocument_verified, if_pos unlike] at resolved
    exact congrArg Prod.fst resolved

end Runs

end ArtifactTrust
