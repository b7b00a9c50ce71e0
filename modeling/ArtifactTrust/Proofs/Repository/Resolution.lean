import ArtifactTrust.Proofs.Digest
import ArtifactTrust.Proofs.Effects
import ArtifactTrust.Registry.Repository
import ArtifactTrust.Repository.Layout
import ArtifactTrust.Repository.Resolution

/-!
# Resolving under any answers

A digest is resolved to a descriptor of that digest or not at all. Of a tag nothing of the kind is
known, for its digest is taken over from the answer.
-/

namespace ArtifactTrust

set_option autoImplicit false

open Text

variable {σ : Type}

/-- A repository that is a registry's or an image layout, over any network and any files. -/
inductive Repository.Provided : Repository (StateM σ) → Prop
  | remote (r : RemoteRepository) (network : Network (StateM σ)) : Provided (r.repository network)
  | layout (l : Layout) (files : Files (StateM σ)) : Provided (l.repository files)

theorem RemoteRepository.digest_of_resolve {r : RemoteRepository} {network : Network (StateM σ)}
    {name : String} {d : Descriptor} {s t : σ} (isDigest : isDigest name = true)
    (resolves : answer (r.resolve network name) s = (.ok d, t)) : d.digest = name := by
  unfold resolve at resolves
  obtain ⟨head, s₁, -, resolves⟩ := answer_bind_eq_ok_iff.mp resolves
  obtain ⟨⟨digest, size⟩, s₂, -, resolves⟩ := answer_bind_eq_ok_iff.mp resolves
  by_cases same : digest = name
  · simp only [same, ne_eq, not_true_eq_false, decide_false, Bool.and_false,
      Bool.false_eq_true, if_false, answer_pure, Prod.mk.injEq, Except.ok.injEq] at resolves
    rw [← resolves.1]
  · simp only [isDigest, same, ne_eq, not_false_eq_true, decide_true, Bool.and_self,
      if_true] at resolves
    cases resolves

namespace Layout

variable {l : Layout} {files : Files (StateM σ)} {digest : String} {d : Descriptor}
  {content : ByteArray} {s t : σ}

theorem answer_reading {α : Type} (report : FileFault → RepositoryError)
    (action : ExceptT FileFault (StateM σ) α) (s : σ) :
    answer (reading report action) s =
      ((answer action s).1.mapError report, (answer action s).2) := by
  simp only [answer, reading, ExceptT.run_mk, StateT.run_bind]
  rcases StateT.run action.run s with ⟨r, t⟩
  cases r <;> rfl

theorem answer_reading_eq_ok_iff {α : Type} {report : FileFault → RepositoryError}
    {action : ExceptT FileFault (StateM σ) α} {a : α} :
    answer (reading report action) s = (.ok a, t) ↔ answer action s = (.ok a, t) := by
  rw [answer_reading]
  rcases answer action s with ⟨r, u⟩
  cases r with
  | ok b =>
    change ((.ok b : Except RepositoryError α), u) = (.ok a, t) ↔ _
    simp
  | error fault =>
    change ((.error (report fault) : Except RepositoryError α), u) = (.ok a, t) ↔ _
    simp

theorem readBlob_of_parse {algorithm : Digest.Algorithm} {encoded : String}
    (parsed : Digest.parse digest = .ok (algorithm, encoded)) :
    l.readBlob files digest = reading (l.blobError digest (l.blobPath algorithm encoded))
      (files.read (l.blobPath algorithm encoded)) := by
  unfold readBlob settled
  rw [Digest.validate_eq_ok_iff.mpr parsed]
  rfl

theorem answer_fetch_of_parse {algorithm : Digest.Algorithm} {encoded : String}
    (parsed : Digest.parse digest = .ok (algorithm, encoded)) {found : Except FileFault ByteArray}
    (read : answer (files.read (l.blobPath algorithm encoded)) s = (found, t)) :
    answer (l.fetch files digest) s =
      ((found.mapError (l.blobError digest (l.blobPath algorithm encoded))).bind fun content =>
        (Digest.verifyContent digest content).map fun _ => content, t) := by
  have loaded : answer (l.readBlob files digest) s =
      (found.mapError (l.blobError digest (l.blobPath algorithm encoded)), t) := by
    rw [readBlob_of_parse parsed, answer_reading, read]
  unfold fetch settled
  cases found with
  | error fault =>
    rw [answer_bind_of_error loaded]
    rfl
  | ok content =>
    rw [answer_bind_of_ok loaded]
    change _ = ((Digest.verifyContent digest content).map _, t)
    cases Digest.verifyContent digest content with
    | ok done => rfl
    | error e => rfl

/-- The file for a digest is there, and its content has the digest under the algorithm that the
digest names. -/
def Stores (l : Layout) (files : Files (StateM σ)) (digest : String) (content : ByteArray)
    (s t : σ) : Prop :=
  ∃ algorithm encoded, Digest.parse digest = .ok (algorithm, encoded) ∧
    answer (files.read (l.blobPath algorithm encoded)) s = (.ok content, t) ∧
    Digest.ofContent algorithm content = digest

theorem fetch_eq_ok_iff :
    answer (l.fetch files digest) s = (.ok content, t) ↔ l.Stores files digest content s t := by
  unfold fetch
  constructor
  · intro h
    obtain ⟨found, s₁, read, h⟩ := answer_bind_eq_ok_iff.mp h
    obtain ⟨_, s₂, checked, h⟩ := answer_bind_eq_ok_iff.mp h
    cases h
    obtain ⟨verified, rfl⟩ := Prod.mk.inj ((answer_mk_pure _ s₁).symm.trans checked)
    obtain ⟨⟨algorithm, encoded⟩, valid, same⟩ := Digest.verifyContent_eq_ok_iff.mp verified
    have parsed := Digest.validate_eq_ok_iff.mp valid
    rw [readBlob_of_parse parsed] at read
    exact ⟨algorithm, encoded, parsed, answer_reading_eq_ok_iff.mp read, same⟩
  · rintro ⟨algorithm, encoded, parsed, read, same⟩
    have valid := Digest.validate_eq_ok_iff.mpr parsed
    have verified := Digest.verifyContent_eq_ok_iff.mpr ⟨_, valid, same⟩
    have found : answer (l.readBlob files digest) s = (.ok content, t) := by
      rw [readBlob_of_parse parsed]
      exact answer_reading_eq_ok_iff.mpr read
    rw [answer_bind_of_ok found]
    unfold settled
    rw [verified]
    rfl

/-- A digest that is not well formed is refused before any file is looked at. -/
theorem answer_fetch_of_malformed (malformed : ¬ Digest.WellFormed digest) :
    ∃ fault, ∀ (l : Layout) (files : Files (StateM σ)) (s : σ),
      answer (l.fetch files digest) s = (.error (.invalidReference digest fault), s) := by
  cases invalid : Digest.parse digest with
  | ok parts => exact absurd ⟨parts, invalid⟩ malformed
  | error fault =>
    refine ⟨fault.message, fun l files s => ?_⟩
    unfold fetch readBlob settled Digest.validate
    rw [invalid]
    rfl

/-- How an image layout comes to the descriptor of a digest. An entry of the index is taken at
its word, whatever its size and its media type, and no file is looked at. -/
inductive Resolves (l : Layout) (files : Files (StateM σ)) (digest : String) :
    Descriptor → σ → σ → Prop
  | listed {index : Index} {entry : Descriptor} {s t : σ}
      (read : answer (l.index files) s = (.ok index, t))
      (found : index.manifests.find? (·.digest = digest) = some entry) :
      Resolves l files digest { entry with annotations := none } s t
  | stored {index : Index} {content : ByteArray} {mediaType : Option String} {s t u : σ}
      (read : answer (l.index files) s = (.ok index, t))
      (unlisted : ∀ entry ∈ index.manifests, entry.digest ≠ digest)
      (stores : l.Stores files digest content t u)
      (manifest : mediaType? content = some mediaType) :
      Resolves l files digest
        ⟨mediaType.getD MediaType.imageManifest, digest, UInt64.ofNat content.size, none, none⟩ s u

theorem resolve_eq_ok_iff (isDigest : isDigest digest = true) :
    answer (l.resolve files digest) s = (.ok d, t) ↔ l.Resolves files digest d s t := by
  have named : isNamed digest = fun entry => decide (entry.digest = digest) := by
    funext entry
    unfold isNamed
    rw [if_pos isDigest]
  unfold resolve
  rw [named]
  constructor
  · intro h
    obtain ⟨index, s₁, read, h⟩ := answer_bind_eq_ok_iff.mp h
    cases found : index.manifests.find? (·.digest = digest) with
    | some entry =>
      rw [found] at h
      cases h
      exact .listed read found
    | none =>
      simp only [found, isDigest, if_true] at h
      unfold describe at h
      obtain ⟨content, s₂, fetched, h⟩ := answer_bind_eq_ok_iff.mp h
      cases known : mediaType? content with
      | none =>
        rw [known] at h
        cases h
      | some mediaType =>
        rw [known] at h
        cases h
        exact .stored read (by simpa using found) (fetch_eq_ok_iff.mp fetched) known
  · intro h
    cases h with
    | listed read found =>
      rw [answer_bind_of_ok read, found]
      rfl
    | stored read unlisted stores manifest =>
      have found : List.find? (fun entry : Descriptor => decide (entry.digest = digest)) _ = none :=
        List.find?_eq_none.mpr fun entry mem => by simpa using unlisted entry mem
      rw [answer_bind_of_ok read, found]
      simp only [isDigest, if_true]
      unfold describe
      rw [answer_bind_of_ok (fetch_eq_ok_iff.mpr stores), manifest]
      rfl

theorem Resolves.digest_eq (resolves : l.Resolves files digest d s t) : d.digest = digest := by
  cases resolves with
  | listed read found => simpa using List.find?_some found
  | stored read unlisted stores manifest => rfl

/-- Where the index does not list a digest, what it is resolved to is there. -/
theorem Resolves.stores {index : Index} {u : σ} (resolves : l.Resolves files digest d s t)
    (read : answer (l.index files) s = (.ok index, u))
    (unlisted : ∀ entry ∈ index.manifests, entry.digest ≠ digest) :
    ∃ content, l.Stores files digest content u t ∧ d.size = UInt64.ofNat content.size := by
  cases resolves with
  | listed own found =>
    cases own.symm.trans read
    have same := List.find?_some found
    exact absurd (by simpa using same) (unlisted _ (List.mem_of_find?_eq_some found))
  | stored own other stores manifest =>
    cases own.symm.trans read
    exact ⟨_, stores, rfl⟩

end Layout

theorem Repository.Provided.digest_of_resolve {repository : Repository (StateM σ)}
    (provided : Provided repository) {name : String} {d : Descriptor} {s t : σ}
    (wellFormed : Digest.WellFormed name)
    (resolves : answer (repository.resolve name) s = (.ok d, t)) : d.digest = name := by
  have colon : holds ':' name = true := List.contains_iff_mem.mpr wellFormed.colon_mem
  cases provided with
  | remote r network => exact RemoteRepository.digest_of_resolve colon resolves
  | layout l files => exact ((Layout.resolve_eq_ok_iff colon).mp resolves).digest_eq

end ArtifactTrust
