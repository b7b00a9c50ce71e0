import ArtifactTrust.Proofs.Registry.Endpoints
import ArtifactTrust.Proofs.Registry.Retries
import ArtifactTrust.Proofs.Repository.Resolution
import ArtifactTrust.Proofs.Verification.Masking

/-!
# What a verification asks of a registry

What is asked for first is a digest that was checked; what is asked for next are digests that the
registry handed out, in its list of signatures and in their manifests.
-/

namespace ArtifactTrust

set_option autoImplicit false

open Registry

variable {σ : Type} {P : Request → Prop}

/-! ### Operations -/

theorem Follows.exists_issues {settings : RegistrySettings} {inquiries : List Inquiry}
    {rounds : List Round} (follows : Follows settings inquiries rounds)
    (kind : ∀ i ∈ inquiries, ∀ q, Aimed i.url q → P q) :
    ∃ requests, Issues (rounds.flatMap Round.exchanges) requests ∧ ∀ q ∈ requests, P q := by
  induction follows with
  | stop => exact ⟨[], .nil, nofun⟩
  | @round _ round _ made settled more ih =>
    obtain ⟨first, issues, aimed⟩ := made.exists_issues
    obtain ⟨others, more, alike⟩ := ih fun i mem => kind i (List.mem_cons_of_mem _ mem)
    refine ⟨first ++ others, issues.append more, ?_⟩
    intro q mem
    rcases List.mem_append.mp mem with mem | mem
    · exact kind _ List.mem_cons_self q (aimed q mem)
    · exact alike q mem

theorem Works.confined {α : Type} {settings : RegistrySettings} {inquiries : List Inquiry}
    {x : ExceptT RepositoryError (StateM σ) α}
    {x' : ExceptT RepositoryError (StateM (List Exchange × σ)) α}
    (works : Traced (Works settings inquiries False) x x')
    (kind : ∀ i ∈ inquiries, ∀ q, Aimed i.url q → P q) : Confined P x x' := by
  intro s
  obtain ⟨log, ⟨rounds, follows, rfl, -⟩, same⟩ := works s
  obtain ⟨requests, issues, alike⟩ := follows.exists_issues kind
  exact ⟨_, requests, issues, alike, same⟩

namespace RemoteRepository

variable (r : RemoteRepository) (network : Network (StateM σ))

theorem confined_resolve {reference : String}
    (kind : ∀ q, Aimed (r.manifestUrl reference) q → P q) :
    Confined P (r.resolve network reference) (r.resolve network.recorded reference) := by
  refine Works.confined (r.works_resolve network reference) fun i mem => ?_
  rcases List.mem_cons.mp mem with rfl | mem
  · exact kind
  · rw [List.mem_singleton.mp mem]
    exact kind

theorem confined_fetchManifest {d : Descriptor}
    (kind : ∀ q, Aimed (r.manifestUrl d.digest) q → P q) :
    Confined P (r.fetchManifest network d) (r.fetchManifest network.recorded d) := by
  refine Works.confined (r.works_fetchManifest network d) fun i mem => ?_
  rw [List.mem_singleton.mp mem]
  exact kind

theorem confined_fetchBlob {d : Descriptor} (kind : ∀ q, Aimed (r.blobUrl d.digest) q → P q) :
    Confined P (r.fetchBlob network d) (r.fetchBlob network.recorded d) := by
  refine Works.confined (r.works_fetchBlob network d) fun i mem => ?_
  rw [List.mem_singleton.mp mem]
  exact kind

theorem confined_listSignatures {subject : Descriptor}
    (api : ∀ text, r.referrersUrl subject.digest = .ok text → ∀ q, Aimed text q → P q)
    (tagged : ∀ q, Aimed (r.manifestUrl (referrersTag subject.digest)) q → P q) :
    Confined P (r.listSignatures network subject) (r.listSignatures network.recorded subject) := by
  refine Works.confined (r.works_listSignatures network subject) fun i mem => ?_
  simp only [plan, referrersInquiries] at mem
  cases known : r.referrersUrl subject.digest with
  | error e =>
    rw [known] at mem
    cases mem
  | ok url =>
    rw [known] at mem
    rcases List.mem_cons.mp mem with rfl | mem
    · exact api url known
    · rw [List.mem_singleton.mp mem]
      exact tagged

end RemoteRepository

/-! ### The verification -/

namespace RemoteRepository

variable {r : RemoteRepository} {network : Network (StateM σ)} {verifier : Verifier (StateM σ)}
  {options : VerifyOptions}

/-- Requests of a kind are all those that are made for a checked digest and for the descriptors
that the registry hands out. -/
structure Covers (P : Request → Prop) (r : RemoteRepository) (network : Network (StateM σ))
    (digest : String) : Prop where
  manifest : ∀ q, Aimed (r.manifestUrl digest) q → P q
  referrers : ∀ text, r.referrersUrl digest = .ok text → ∀ q, Aimed text q → P q
  tagged : ∀ q, Aimed (r.manifestUrl (referrersTag digest)) q → P q
  signature : ∀ {subject s ds t}, answer (r.listSignatures network subject) s = (.ok ds, t) →
    ∀ d ∈ ds, ∀ q, Aimed (r.manifestUrl d.digest) q → P q
  envelope : ∀ {d s m t}, answer (r.fetchManifest network d) s = (.ok m, t) →
    ∀ layer, m.envelope? = some layer → ∀ q, Aimed (r.blobUrl layer.digest) q → P q

variable {digest : String} (covers : Covers P r network digest)
include covers

theorem confined_attempt {target signature : Descriptor}
    (kind : ∀ q, Aimed (r.manifestUrl signature.digest) q → P q) :
    Confined P (verifier.attempt (r.repository network) options target signature)
      (verifier.beside.attempt (r.repository network.recorded) options target signature) := by
  refine Confined.bind (confined_fetchManifest r network kind).asking fun m fetched => ?_
  obtain ⟨s, t, fetched⟩ := fetched
  have fetched := answer_asking_eq_ok_iff.mp fetched
  cases found : m.layers.find? (·.mediaType = MediaType.envelope) with
  | none =>
    simp only
    exact Confined.settled (.ok none)
  | some layer =>
    simp only
    refine Confined.bind
      (confined_fetchBlob r network (covers.envelope fetched layer found)).asking
      fun document _ => ?_
    refine Confined.bind (Confined.unrecorded (verifier.verify target document options)).lift
      fun judged _ => ?_
    cases judged with
    | ok outcome => exact Confined.settled (.ok (some outcome))
    | error cause =>
      simp only
      cases cause.isRejection with
      | true => exact Confined.settled (.ok none)
      | false => exact Confined.settled (.error cause)

theorem confined_search {target : Descriptor} {signatures : List Descriptor}
    (kind : ∀ d ∈ signatures, ∀ q, Aimed (r.manifestUrl d.digest) q → P q) (limit : Nat) :
    Confined P (verifier.search (r.repository network) options target limit signatures)
      (verifier.beside.search (r.repository network.recorded) options target limit
        signatures) := by
  induction signatures generalizing limit with
  | nil =>
    unfold Verifier.search
    exact Confined.settled (.error _)
  | cons signature rest ih =>
    cases limit with
    | zero => exact Confined.settled (.error _)
    | succ limit =>
      unfold Verifier.search
      refine Confined.bind (confined_attempt covers (kind signature List.mem_cons_self))
        fun found _ => ?_
      cases found with
      | some outcome => exact Confined.settled (.ok outcome)
      | none => exact ih (fun d mem => kind d (List.mem_cons_of_mem signature mem)) limit

/-- A verification of a checked digest asks for nothing else, since the digest of what it resolves
to is the checked one. -/
theorem confined_run (wellFormed : Digest.WellFormed digest) (pinned : options.digest = .ok digest) :
    Confined P (verifier.run (r.repository network) options)
      (verifier.beside.run (r.repository network.recorded) options) := by
  have colon : isDigest digest = true := List.contains_iff_mem.mpr wellFormed.colon_mem
  rw [Verifier.run_eq, Verifier.run_eq, pinned]
  refine Confined.bind (Confined.settled (.ok digest)) fun own same => ?_
  obtain ⟨_, _, same⟩ := same
  cases same
  refine Confined.bind (confined_resolve r network covers.manifest).asking
    fun target resolved => ?_
  obtain ⟨s, t, resolved⟩ := resolved
  -- From here on requests are for the digest of the target, which is known to be the checked one.
  have ofTarget : target.digest = digest :=
    digest_of_resolve colon (answer_asking_eq_ok_iff.mp resolved)
  unfold Verifier.settleResolved
  refine Confined.bind (Confined.unrecorded (verifier.skipLevel options)) fun level _ => ?_
  cases level with
  | some level => exact Confined.settled (.ok _)
  | none =>
    simp only [Option.isSome_none, Bool.false_eq_true, if_false]
    unfold Verifier.settleUnskipped
    by_cases barred : options.maxAttempts = 0
    · simp only [barred, if_true]
      exact Confined.failed _ _ _
    · simp only [barred, if_false]
      have listing : Confined P (r.listSignatures network target)
          (r.listSignatures network.recorded target) :=
        confined_listSignatures r network (ofTarget ▸ covers.referrers) (ofTarget ▸ covers.tagged)
      refine Confined.bind listing.asking fun signatures listed => ?_
      obtain ⟨s, t, listed⟩ := listed
      have handed := covers.signature (answer_asking_eq_ok_iff.mp listed)
      unfold Verifier.settleListed
      cases unsigned : signatures.isEmpty with
      | true =>
        simp only [if_true]
        exact Confined.failed _ _ _
      | false =>
        simp only [Bool.false_eq_true, if_false]
        exact Confined.bind (confined_search covers handed options.maxAttempts)
          fun outcome _ => Confined.settled (.ok _)

end RemoteRepository

end ArtifactTrust
