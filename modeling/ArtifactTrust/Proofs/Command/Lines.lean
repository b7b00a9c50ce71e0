import ArtifactTrust.Command.Verify

/-!
# Transcripts made of lines

Whatever is written is whole lines, of the output and next to it.
-/

namespace ArtifactTrust.Command

set_option autoImplicit false

/-! ### Lines -/

def lines (ls : List String) : String := String.join (ls.map (· ++ "\n"))

theorem lines_append (ls ms : List String) : lines (ls ++ ms) = lines ls ++ lines ms := by
  unfold lines
  rw [List.map_append, String.join_append]

theorem lines_cons (l : String) (ls : List String) : lines (l :: ls) = l ++ "\n" ++ lines ls := by
  unfold lines
  rw [List.map_cons, String.join_cons]

/-- Lines of the output, and lines next to it. -/
def Transcript.ofLines (out err : List String) : Transcript := ⟨lines out, lines err⟩

theorem Transcript.ofLines_append (out err out' err' : List String) :
    ofLines out err ++ ofLines out' err' = ofLines (out ++ out') (err ++ err') := by
  unfold ofLines
  rw [lines_append, lines_append]
  rfl

theorem Transcript.empty_eq_ofLines : empty = ofLines [] [] := rfl

theorem Transcript.outLine_eq_ofLines (s : String) : outLine s = ofLines [s] [] := by
  unfold outLine ofLines lines
  simp

theorem Transcript.errLine_eq_ofLines (s : String) : errLine s = ofLines [] [s] := by
  unfold errLine ofLines lines
  simp

/-! ### Warnings -/

def mutabilityWarning (tag : String) : String :=
  "Warning: Always verify the artifact using digest(@sha256:...) rather than a tag(:" ++ tag ++
    ") because resolved digest may not point to the same signed artifact, as tags are mutable."

def tagLines (artifact : Reference) : List String :=
  match artifact.selector with
  | .tag tag => [mutabilityWarning tag]
  | .digest _ => []

theorem tagWarning_eq_ofLines (tag : String) :
    tagWarning tag = .ofLines [] [mutabilityWarning tag] := by
  unfold tagWarning
  rw [Transcript.errLine_eq_ofLines]
  congr 2
  unfold mutabilityWarning
  rw [String.append_assoc, String.append_assoc, String.append_assoc]
  rfl

theorem referenceWarning_eq_ofLines (artifact : Reference) :
    referenceWarning artifact = .ofLines [] (tagLines artifact) := by
  unfold referenceWarning tagLines Reference.tag?
  cases artifact.selector with
  | tag tag => exact tagWarning_eq_ofLines tag
  | digest digest => rfl

/-- The line about a check, if it failed. -/
def failureLine? (r : CheckResult) : Option String :=
  r.failure.map fun failure =>
    "Warning: " ++ r.check.name ++ " was set to \"" ++ r.action.name ++
      "\" and failed with error: " ++ failure

theorem failureWarning_eq_ofLines (r : CheckResult) :
    failureWarning r = .ofLines [] (failureLine? r).toList := by
  unfold failureWarning failureLine?
  cases r.failure with
  | none => rfl
  | some failure => exact Transcript.errLine_eq_ofLines _

theorem concat_failureWarnings (results : List CheckResult) :
    Transcript.concat (results.map failureWarning) =
      .ofLines [] (results.filterMap failureLine?) := by
  -- Transcripts are joined from the left, so the induction carries the lines written so far.
  have fold (start : List String) :
      (results.map failureWarning).foldl Transcript.append (Transcript.ofLines [] start) =
        Transcript.ofLines [] (start ++ results.filterMap failureLine?) := by
    induction results generalizing start with
    | nil => simp
    | cons r rest ih =>
      have first : (Transcript.ofLines [] start).append (failureWarning r) =
          .ofLines [] (start ++ (failureLine? r).toList) := by
        rw [failureWarning_eq_ofLines]
        exact Transcript.ofLines_append [] start [] _
      rw [List.map_cons, List.foldl_cons, first, ih, List.append_assoc]
      cases given : failureLine? r with
      | none => rw [List.filterMap_cons_none given]; rfl
      | some line => rw [List.filterMap_cons_some given]; rfl
  exact fold []

end ArtifactTrust.Command
