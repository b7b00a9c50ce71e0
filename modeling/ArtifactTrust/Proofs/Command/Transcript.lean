import ArtifactTrust.Proofs.Command.Pinning
import Mathlib.Data.List.Forall2

/-!
# What a verification writes

The lines that are written for every way in which a verification can end. The warning about a tag
comes first and does not depend on what follows.
-/

namespace ArtifactTrust.Command

set_option autoImplicit false

variable {σ : Type} {o : Outcome} {labels : Labels}

/-! ### Warnings that differ -/

theorem mutabilityWarning_injective : Function.Injective mutabilityWarning := by
  intro tag other same
  unfold mutabilityWarning at same
  rwa [String.append_left_inj, String.append_right_inj] at same

theorem getElem?_toList_append {a : String} {i : Nat} {c : Char} (b : String)
    (holds : a.toList[i]? = some c) : (a ++ b).toList[i]? = some c := by
  rw [String.toList_append]
  exact (List.getElem?_append_left (List.getElem?_eq_some_iff.mp holds).1).trans holds

/-- Behind its first word a line about a check goes on with a name, in small letters. -/
theorem failureLine?_ne_mutabilityWarning (r : CheckResult) (tag : String) :
    failureLine? r ≠ some (mutabilityWarning tag) := by
  unfold failureLine?
  cases r.failure with
  | none => exact nofun
  | some failure =>
    intro same
    have capital : (mutabilityWarning tag).toList[9]? = some 'A' :=
      getElem?_toList_append _ (getElem?_toList_append _ (by decide +kernel))
    rw [← Option.some.inj same] at capital
    obtain ⟨c, small, starts⟩ :
        ∃ c, c ≠ 'A' ∧ ("Warning: " ++ r.check.name).toList[9]? = some c := by
      cases r.check <;> exact ⟨_, by decide, rfl⟩
    have kept := getElem?_toList_append failure (getElem?_toList_append
      "\" and failed with error: " (getElem?_toList_append r.action.name
        (getElem?_toList_append " was set to \"" starts)))
    exact small (Option.some.inj (kept.symm.trans capital))

/-! ### Tables -/

/-- A name with a text behind it that starts in a given column. -/
def Row (column : Nat) (name text row : String) : Prop :=
  ∃ blanks, columnGap ≤ blanks ∧ name.length + blanks = column ∧
    row = name ++ String.ofList (List.replicate blanks ' ') ++ text

/-- Labels as a table, in the order of their names. The texts start in one column, which is as far
to the left as the gap behind the widest name allows. -/
inductive IsTable (labels : Labels) : List String → Prop
  | intro {column : Nat} {header : String} {rows : List String}
      (head : Row column "KEY" "VALUE" header)
      (body : List.Forall₂ (fun entry row => Row column entry.1 entry.2 row) labels.entries rows)
      (tight : column = "KEY".length + columnGap ∨
        ∃ name ∈ labels.names, column = name.length + columnGap) :
      IsTable labels (header :: rows)

theorem row_filled {column : Nat} {name : String} (fits : name.length + columnGap ≤ column)
    (text : String) : Row column name text (filled column name ++ text) :=
  ⟨column - name.length, by omega, by omega, rfl⟩

theorem widest_spec (names : List String) (start : Nat) :
    let widest := names.foldl (fun w name => max w name.length) start
    start ≤ widest ∧ (∀ name ∈ names, name.length ≤ widest) ∧
      (widest = start ∨ ∃ name ∈ names, widest = name.length) := by
  induction names generalizing start with
  | nil => simp
  | cons name rest ih =>
    obtain ⟨above, all, attained⟩ := ih (max start name.length)
    refine ⟨?_, ?_, ?_⟩
    · exact Nat.le_trans (Nat.le_max_left _ _) above
    · intro other mem
      rcases List.mem_cons.mp mem with rfl | mem
      · exact Nat.le_trans (Nat.le_max_right _ _) above
      · exact all other mem
    · rw [List.foldl_cons]
      rcases attained with same | ⟨other, mem, same⟩
      · rw [same]
        rcases Nat.le_total name.length start with below | above
        · exact .inl (Nat.max_eq_left below)
        · exact .inr ⟨name, List.mem_cons_self, Nat.max_eq_right above⟩
      · exact .inr ⟨other, List.mem_cons_of_mem name mem, same⟩

def textColumn (labels : Labels) : Nat :=
  labels.names.foldl (fun w name => max w name.length) "KEY".length + columnGap

def tableRows (labels : Labels) : List String :=
  (filled (textColumn labels) "KEY" ++ "VALUE") ::
    labels.entries.map fun entry => filled (textColumn labels) entry.1 ++ entry.2

theorem isTable_tableRows (labels : Labels) : IsTable labels (tableRows labels) := by
  obtain ⟨header, all, attained⟩ := widest_spec labels.names "KEY".length
  refine .intro (row_filled (Nat.add_le_add_right header columnGap) "VALUE") ?_ ?_
  · rw [List.forall₂_map_right_iff, List.forall₂_same]
    intro entry mem
    have named : entry.1 ∈ labels.names := List.mem_map_of_mem mem
    exact row_filled (Nat.add_le_add_right (all entry.1 named) columnGap) entry.2
  · rcases attained with same | ⟨name, mem, same⟩
    · exact .inl (congrArg (· + columnGap) same)
    · exact .inr ⟨name, mem, congrArg (· + columnGap) same⟩

theorem table_eq_lines (labels : Labels) : table labels = lines ("" :: tableRows labels) := by
  unfold table tableRows
  rw [lines_cons, lines_cons]
  unfold lines
  rw [List.map_map]
  change "\n" ++ filled (textColumn labels) "KEY" ++ ("VALUE" ++ "\n") ++ _ = _
  simp only [String.append_assoc, String.empty_append, Function.comp_def]
  rfl

example : table (.ofList [("env", "prod"), ("buildId", "42")]) =
    "\nKEY       VALUE\nbuildId   42\nenv       prod\n" := by
  decide +kernel

/-! ### Reports -/

/-- The labels of the verified payload, where there are any. -/
def Annotated (o : Outcome) (labels : Labels) : Prop :=
  ∃ payload, o.payload = some payload ∧ payload.target.annotations = some labels ∧
    labels.entries ≠ []

theorem annotated_iff :
    Annotated o labels ↔ o.userMetadata = .ok labels ∧ labels.isEmpty = false := by
  have filled : labels.isEmpty = false ↔ labels.entries ≠ [] := List.isEmpty_eq_false_iff
  unfold Annotated Outcome.userMetadata
  rw [filled]
  cases o.payload with
  | none => simp
  | some payload =>
    simp only [Option.some.injEq, exists_eq_left', Except.ok.injEq]
    cases payload.target.annotations with
    | none =>
      refine ⟨nofun, ?_⟩
      rintro ⟨rfl, entries⟩
      exact absurd rfl entries
    | some found => rw [Option.some.injEq, Option.getD_some]

def metadataHeading : String := "The artifact was signed with the following user metadata."

theorem metadataReport_of_annotated (annotated : Annotated o labels) :
    metadataReport o = .ofLines ("" :: metadataHeading :: "" :: tableRows labels) [] := by
  obtain ⟨given, filled⟩ := annotated_iff.mp annotated
  unfold metadataReport
  rw [given]
  simp only [filled, Bool.false_eq_true, if_false]
  unfold Transcript.ofLines
  rw [table_eq_lines, lines_cons "" (metadataHeading :: _), lines_cons metadataHeading,
    ← String.append_assoc]
  rfl

theorem metadataReport_of_bare (bare : ∀ labels, ¬ Annotated o labels) :
    metadataReport o = .empty := by
  unfold metadataReport
  cases given : o.userMetadata with
  | error cause => rfl
  | ok labels =>
    cases filled : labels.isEmpty with
    | true => simp only [filled, if_true]
    | false => exact absurd (annotated_iff.mpr ⟨given, filled⟩) (bare labels)

/-- The lines of the output about an outcome. -/
inductive Reported (reference : String) (o : Outcome) : List String → Prop
  | skipped (level : o.level = .skip) : Reported reference o [skipStart ++ reference]
  | bare (level : o.level ≠ .skip) (bare : ∀ labels, ¬ Annotated o labels) :
      Reported reference o [successStart ++ reference]
  | annotated {labels : Labels} {rows : List String} (level : o.level ≠ .skip)
      (annotated : Annotated o labels) (table : IsTable labels rows) :
      Reported reference o
        ((successStart ++ reference) :: "" :: metadataHeading :: "" :: rows)

theorem exists_reported (reference : String) (o : Outcome) :
    ∃ out, Reported reference o out ∧
      outcomeReport reference o = .ofLines out (o.results.filterMap failureLine?) := by
  unfold outcomeReport
  rw [concat_failureWarnings]
  by_cases level : o.level = .skip
  · refine ⟨_, .skipped level, ?_⟩
    rw [if_pos level, Transcript.outLine_eq_ofLines, Transcript.ofLines_append]
    simp only [List.append_nil, List.nil_append]
    rfl
  · rw [if_neg level, Transcript.outLine_eq_ofLines]
    by_cases bare : ∀ labels, ¬ Annotated o labels
    · refine ⟨_, .bare level bare, ?_⟩
      rw [metadataReport_of_bare bare, Transcript.empty_eq_ofLines, Transcript.ofLines_append,
        Transcript.ofLines_append]
      simp only [List.append_nil, List.nil_append]
      rfl
    · obtain ⟨labels, annotated⟩ := not_forall_not.mp bare
      refine ⟨_, .annotated level annotated (isTable_tableRows labels), ?_⟩
      rw [metadataReport_of_annotated annotated, Transcript.ofLines_append,
        Transcript.ofLines_append]
      simp only [List.append_nil, List.nil_append, List.singleton_append]
      rfl

/-! ### Runs -/

/-- The failure for an artifact all of whose signatures are rejected. -/
def RejectsAll (reference : String) (failure : Failure) : Prop :=
  failure = .rejected reference ∧ failure.message =
    "signature verification failed for all the signatures associated with " ++ reference

/-- The failure for a verification that came to no end, whose text ends in that of the cause. -/
def Wraps (cause : VerificationError) (failure : Failure) : Prop :=
  failure = .verification cause ∧
    failure.message = "signature verification failed: " ++ cause.message

/-- What comes of a verification: the lines of the output, those next to it, and the result. -/
inductive Concludes (artifact : Reference) (reference : String) :
    Except VerificationError (Descriptor × List Outcome) → List String → List String →
      Except Failure Unit → Prop
  | rejected {failure : Failure} (reason : String) (all : RejectsAll reference failure) :
      Concludes artifact reference (.error (.rejected reason)) [] (tagLines artifact)
        (.error failure)
  | failed {cause : VerificationError} {failure : Failure}
      (other : ∀ reason, cause ≠ .rejected reason) (wraps : Wraps cause failure) :
      Concludes artifact reference (.error cause) [] (tagLines artifact) (.error failure)
  | noOutcome {failure : Failure} (target : Descriptor) (all : RejectsAll reference failure) :
      Concludes artifact reference (.ok (target, [])) [] (tagLines artifact) (.error failure)
  | verified {o : Outcome} {out : List String} (target : Descriptor) (others : List Outcome)
      (reported : Reported reference o out) :
      Concludes artifact reference (.ok (target, o :: others)) out
        (tagLines artifact ++ o.results.filterMap failureLine?) (.ok ())

theorem exists_concludes (artifact : Reference) (reference : String)
    (result : Except VerificationError (Descriptor × List Outcome)) :
    ∃ out err final,
      conclude (referenceWarning artifact) reference result = (.ofLines out err, final) ∧
      Concludes artifact reference result out err final := by
  rw [referenceWarning_eq_ofLines]
  rcases result with cause | ⟨target, _ | ⟨o, others⟩⟩
  · cases rejection : cause.isRejection with
    | true =>
      obtain ⟨reason, rfl⟩ : ∃ reason, cause = .rejected reason := by
        cases cause <;> first | exact ⟨_, rfl⟩ | cases rejection
      exact ⟨_, _, _, rfl, .rejected reason ⟨rfl, rfl⟩⟩
    | false =>
      have other : ∀ reason, cause ≠ .rejected reason := by
        rintro reason rfl
        cases rejection
      refine ⟨_, _, _, ?_, .failed other ⟨rfl, rfl⟩⟩
      simp only [conclude, Except.map, settled, rejection]
      rfl
  · exact ⟨_, _, _, rfl, .noOutcome target ⟨rfl, rfl⟩⟩
  · obtain ⟨out, reported, written⟩ := exists_reported reference o
    refine ⟨_, _, _, ?_, .verified target others reported⟩
    simp only [conclude, Except.map, settled, report, written, Transcript.ofLines_append,
      List.nil_append]

/-- The warning about the tag of a reference is written once, and that about no other tag ever is,
whatever comes of the verification. -/
theorem Concludes.count {artifact : Reference} {reference : String}
    {result : Except VerificationError (Descriptor × List Outcome)} {out err : List String}
    {final : Except Failure Unit} (concludes : Concludes artifact reference result out err final)
    (tag : String) :
    err.count (mutabilityWarning tag) = if artifact.selector = .tag tag then 1 else 0 := by
  have own : (tagLines artifact).count (mutabilityWarning tag) =
      if artifact.selector = .tag tag then 1 else 0 := by
    unfold tagLines
    cases artifact.selector with
    | digest digest => rfl
    | tag given =>
      rw [List.count_singleton]
      simp only [beq_iff_eq, mutabilityWarning_injective.eq_iff, Selector.tag.injEq]
  cases concludes with
  | rejected => exact own
  | failed => exact own
  | noOutcome => exact own
  | @verified o =>
    have none : (o.results.filterMap failureLine?).count (mutabilityWarning tag) = 0 := by
      rw [List.count_eq_zero, List.mem_filterMap]
      rintro ⟨r, -, same⟩
      exact failureLine?_ne_mutabilityWarning r tag same
    rw [List.count_append, own, none, Nat.add_zero]

/-- What is written and what comes of it, for any answers of the repository and any verdict. If the
reference cannot be resolved the cause is handed on and nothing is written. Otherwise the warning
about its tag is written, once, and what follows depends on the verification alone: where it fails
nothing else is written and the failure is the rejection of all signatures or is wrapped, and where
it succeeds there are the lines about the failed checks and those about the outcome. -/
theorem verify_transcript (request : VerifyRequest) (artifact : Reference)
    (repository : Repository (StateM σ)) (verifier : Verifier (StateM σ)) (s : σ) :
    (∀ cause t, answer (artifact.resolve repository) s = (.error cause, t) →
      (verify request artifact repository verifier).run s =
        ((.empty, .error (.repository cause)), t) ∧
      (Failure.repository cause).message = cause.message) ∧
    ∀ d resolved s₁ result t,
      answer (artifact.resolve repository) s = (.ok (d, resolved), s₁) →
      answer (verifier.run repository (request.options resolved)) s₁ = (result, t) →
      ∃ out err final,
        (verify request artifact repository verifier).run s = ((.ofLines out err, final), t) ∧
        Concludes artifact resolved.text result out err final ∧
        ∀ tag, err.count (mutabilityWarning tag) =
          if artifact.selector = .tag tag then 1 else 0 := by
  refine ⟨?_, ?_⟩
  · intro cause t fails
    refine ⟨?_, rfl⟩
    unfold answer at fails
    unfold verify
    rw [StateT.run_bind, fails]
    rfl
  · intro d resolved s₁ result t resolves verifies
    obtain ⟨out, err, final, written, concludes⟩ :=
      exists_concludes artifact resolved.text result
    refine ⟨out, err, final, ?_, concludes, concludes.count⟩
    unfold answer at resolves verifies
    unfold verify
    rw [StateT.run_bind, resolves]
    change StateT.run (do
      let result ← (verifier.run repository (request.options resolved)).run
      return conclude (referenceWarning artifact) resolved.text result) s₁ = _
    rw [StateT.run_bind, verifies]
    exact congrArg (·, t) written

/-- A repository with one signature, which answers in one way for the artifact. -/
def soleRepository (found : Except RepositoryError Descriptor) : Repository (StateM Unit) where
  resolve _ := ExceptT.mk (pure found)
  fetchManifest _ := pure
    ⟨2, none, none, ⟨MediaType.signature, "d", 0, none, none⟩,
      [⟨MediaType.envelope, "e", 1, none, none⟩], none, none⟩
  fetchBlob _ := pure ByteArray.empty
  listSignatures d := pure [d]

/-- An outcome with a failed check and a label. -/
def labelledOutcome : Outcome where
  level := .permissive
  results := [⟨.authenticity, .enforce, none⟩, ⟨.expiry, .log, some "signature expired"⟩]
  payload := some
    ⟨{ signedTarget with annotations := some (.ofList [("buildId", "42")]) },
      KeyVerifier.sampleNow, none⟩

def labellingVerifier : Verifier (StateM Unit) where
  skipLevel _ := pure none
  verify _ _ _ := pure labelledOutcome

def labelledTranscript : Transcript where
  out := successStart ++ ("layout@" ++ Verifier.sampleDigest ++
    "\n\nThe artifact was signed with the following user metadata.\n\n" ++
    "KEY       VALUE\nbuildId   42\n")
  err := mutabilityWarning "v1" ++
    "\nWarning: expiry was set to \"log\" and failed with error: signature expired\n"

set_option maxRecDepth 100000 in
/-- A failed resolution, and a success with a tag, a failed check and a label. -/
theorem verify_transcript_labelled :
    ((verify turnedRequest turnedArtifact (soleRepository (.error (.notFound "v1")))
        labellingVerifier).run () = ((.empty, .error (.repository (.notFound "v1"))), ())) ∧
    ∃ out err,
      (verify turnedRequest turnedArtifact (soleRepository (.ok signedTarget))
        labellingVerifier).run () = ((.ofLines out err, .ok ()), ()) ∧
      Transcript.ofLines out err = labelledTranscript ∧
      Reported (turnedArtifact.resolved signedTarget).text labelledOutcome out ∧
      err.count (mutabilityWarning "v1") = 1 := by
  have verified : answer (labellingVerifier.run (soleRepository (.ok signedTarget))
      (turnedRequest.options (turnedArtifact.resolved signedTarget))) () =
      (.ok (signedTarget, [labelledOutcome]), ()) := by
    refine Prod.ext ?_ (Subsingleton.elim _ _)
    decide +kernel
  obtain ⟨out, err, final, runs, concludes, counts⟩ :=
    (verify_transcript turnedRequest turnedArtifact (soleRepository (.ok signedTarget))
      labellingVerifier ()).2 signedTarget _ () _ () rfl verified
  have written : (verify turnedRequest turnedArtifact (soleRepository (.ok signedTarget))
      labellingVerifier).run () = ((labelledTranscript, .ok ()), ()) := by
    refine Prod.ext ?_ (Subsingleton.elim _ _)
    decide +kernel
  cases concludes with
  | verified target others reported =>
    exact ⟨((verify_transcript _ _ _ _ ()).1 _ () rfl).1, out, _, runs,
      congrArg (·.1.1) (runs.symm.trans written), reported, counts "v1"⟩

end ArtifactTrust.Command
