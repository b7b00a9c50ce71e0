import ArtifactTrust.Digest
import ArtifactTrust.Proofs.Except
import ArtifactTrust.Proofs.Text.Cut

/-!
# What a well-formed digest looks like

It holds a colon, which no tag does, and no at sign, so it is recognised wherever it stands.
-/

namespace ArtifactTrust.Digest

set_option autoImplicit false

variable {digest encoded : String} {algorithm : Algorithm}

theorem ofName?_eq_some_iff {name : String} :
    Algorithm.ofName? name = some algorithm ↔ name = algorithm.name := by
  unfold Algorithm.ofName?
  constructor
  · intro h
    split at h
    · rename_i hn
      cases h
      exact hn
    split at h
    · rename_i hn
      cases h
      exact hn
    · cases h
  · rintro rfl
    cases algorithm with
    | sha256 => rfl
    | sha512 => rfl

theorem colon_notMem_name (algorithm : Algorithm) : ':' ∉ algorithm.name.toList := by
  cases algorithm with
  | sha256 => decide
  | sha512 => decide

theorem cutFirst?_digest (algorithm : Algorithm) (encoded : String) :
    Text.cutFirst? ':' (algorithm.name ++ ":" ++ encoded) = some (algorithm.name, encoded) :=
  Text.cutFirst?_eq_some_iff.mpr ⟨rfl, colon_notMem_name algorithm⟩

theorem parse_eq_ok_iff :
    parse digest = .ok (algorithm, encoded) ↔
      digest = algorithm.name ++ ":" ++ encoded ∧
        encoded.toList.length = algorithm.hexLength ∧
        encoded.toList.all Text.isLowerHex = true := by
  unfold parse
  constructor
  · intro h
    cases cut : Text.cutFirst? ':' digest with
    | none =>
      rw [cut] at h
      cases h
    | some sides =>
      obtain ⟨name, rest⟩ := sides
      simp only [cut] at h
      obtain ⟨rfl, -⟩ := Text.cutFirst?_eq_some_iff.mp cut
      cases known : Algorithm.ofName? name with
      | none =>
        rw [known] at h
        cases h
      | some found =>
        simp only [known] at h
        split at h
        · rename_i fits
          cases h
          rw [ofName?_eq_some_iff.mp known]
          exact ⟨rfl, fits⟩
        · cases h
  · rintro ⟨rfl, fits⟩
    rw [cutFirst?_digest]
    simp only [ofName?_eq_some_iff.mpr rfl]
    rw [if_pos fits]

theorem algorithm_eq_of_ofContent {other : Algorithm} {content : ByteArray}
    (parsed : parse digest = .ok (algorithm, encoded)) (same : ofContent other content = digest) :
    other = algorithm := by
  obtain ⟨written, -⟩ := parse_eq_ok_iff.mp parsed
  have cut := cutFirst?_digest algorithm encoded
  rw [← written, ← same] at cut
  have name : other.name = algorithm.name :=
    congrArg Prod.fst (Option.some.inj ((cutFirst?_digest other _).symm.trans cut))
  have known := ofName?_eq_some_iff.mpr name
  rw [ofName?_eq_some_iff.mpr rfl] at known
  exact Option.some.inj known

theorem validate_eq_ok_iff {parts : Algorithm × String} :
    validate digest = .ok parts ↔ parse digest = .ok parts := by
  unfold validate
  cases parse digest with
  | ok found => simp
  | error fault => simp

theorem validate_of_fault {fault : Fault} (parsed : parse digest = .error fault) :
    validate digest = .error (.invalidReference digest fault.message) := by
  unfold validate
  rw [parsed]

/-- Content is checked under the algorithm that the digest names. -/
theorem verifyContent_eq_ok_iff {content : ByteArray} :
    verifyContent digest content = .ok () ↔
      ∃ parts, validate digest = .ok parts ∧ ofContent parts.1 content = digest := by
  unfold verifyContent
  rw [bind_eq_ok_iff]
  refine exists_congr fun parts => and_congr_right fun _ => ?_
  by_cases same : ofContent parts.1 content = digest
  · simp only [same, if_true, iff_true]
    rfl
  · simp only [same, if_false, iff_false]
    intro refused
    cases refused

theorem verifyContent_of_parse (parsed : parse digest = .ok (algorithm, encoded))
    (content : ByteArray) :
    verifyContent digest content =
      if ofContent algorithm content = digest then .ok ()
      else .error (.digestMismatch digest (ofContent algorithm content)) := by
  unfold verifyContent
  rw [validate_eq_ok_iff.mpr parsed]
  rfl

theorem verifyContent_of_fault {fault : Fault} (parsed : parse digest = .error fault)
    (content : ByteArray) :
    verifyContent digest content = .error (.invalidReference digest fault.message) := by
  unfold verifyContent
  rw [validate_of_fault parsed]
  rfl

theorem wellFormed_of_validate {parts : Algorithm × String} (h : validate digest = .ok parts) :
    WellFormed digest :=
  ⟨parts, validate_eq_ok_iff.mp h⟩

theorem WellFormed.validates (h : WellFormed digest) : ∃ parts, validate digest = .ok parts := by
  obtain ⟨parts, h⟩ := h
  exact ⟨parts, validate_eq_ok_iff.mpr h⟩

theorem WellFormed.at_notMem (h : WellFormed digest) : '@' ∉ digest.toList := by
  obtain ⟨⟨algorithm, encoded⟩, h⟩ := h
  obtain ⟨rfl, -, hex⟩ := parse_eq_ok_iff.mp h
  intro mem
  simp only [String.toList_append, List.mem_append] at mem
  rcases mem with (mem | mem) | mem
  · revert mem
    cases algorithm with
    | sha256 => decide
    | sha512 => decide
  · exact absurd mem (by decide)
  · exact absurd (List.all_eq_true.mp hex '@' mem) (by decide)

theorem WellFormed.colon_mem (h : WellFormed digest) : ':' ∈ digest.toList := by
  obtain ⟨⟨algorithm, encoded⟩, h⟩ := h
  obtain ⟨rfl, -⟩ := parse_eq_ok_iff.mp h
  simp

end ArtifactTrust.Digest
