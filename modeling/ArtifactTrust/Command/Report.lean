import ArtifactTrust.Command.Request
import ArtifactTrust.Verification.Outcome

/-!
# Reports

What the program writes, and what it fails with.
-/

namespace ArtifactTrust.Command

set_option autoImplicit false

/-- What has been written, to the output and next to it. -/
structure Transcript where
  out : String
  err : String
deriving DecidableEq, Repr

namespace Transcript

def empty : Transcript := ⟨"", ""⟩

def append (s t : Transcript) : Transcript := ⟨s.out ++ t.out, s.err ++ t.err⟩

instance : Append Transcript := ⟨append⟩

def outLine (s : String) : Transcript := ⟨s ++ "\n", ""⟩

def errLine (s : String) : Transcript := ⟨"", s ++ "\n"⟩

def concat (ts : List Transcript) : Transcript := ts.foldl append empty

end Transcript

inductive Failure where
  | request (fault : RequestFault)
  | repository (cause : RepositoryError)
  | configuration (cause : VerificationError)
  /-- The verification came to no end. -/
  | verification (cause : VerificationError)
  /-- The verification found no signature that counts. -/
  | rejected (reference : String)
  | noOutcome
deriving DecidableEq, Repr

def Failure.message : Failure → String
  | request fault => fault.message
  | repository cause => cause.message
  | configuration cause => cause.message
  | verification cause => "signature verification failed: " ++ cause.message
  | rejected reference =>
    "signature verification failed for all the signatures associated with " ++ reference
  | noOutcome => "no verification outcome to report"

def columnGap : Nat := 3

/-- A text filled up with blanks to a number of characters. -/
def filled (width : Nat) (s : String) : String :=
  s ++ String.ofList (List.replicate (width - s.length) ' ')

def table (labels : Labels) : String :=
  let width := labels.names.foldl (fun w name => max w name.length) "KEY".length + columnGap
  "\n" ++ filled width "KEY" ++ "VALUE\n" ++
    String.join (labels.entries.map fun (name, text) => filled width name ++ text ++ "\n")

/-- The outcomes to report, or what is wrong. -/
def settled (reference : String) (result : Except VerificationError (List Outcome)) :
    Except Failure (List Outcome) :=
  match result with
  | .ok (o :: os) => .ok (o :: os)
  | .ok [] => .error (.rejected reference)
  | .error cause =>
    if cause.isRejection then .error (.rejected reference) else .error (.verification cause)

/-- The warning about a check that failed without harm. -/
def failureWarning (r : CheckResult) : Transcript :=
  match r.failure with
  | some failure =>
    .errLine ("Warning: " ++ r.check.name ++ " was set to \"" ++ r.action.name ++
      "\" and failed with error: " ++ failure)
  | none => .empty

def metadataReport (o : Outcome) : Transcript :=
  let labels : Labels :=
    match o.userMetadata with
    | .ok labels => labels
    | .error _ => ∅
  if labels.isEmpty then .empty
  else ⟨"\nThe artifact was signed with the following user metadata.\n" ++ table labels, ""⟩

def outcomeReport (reference : String) (o : Outcome) : Transcript :=
  .concat (o.results.map failureWarning) ++
    if o.level = .skip then
      .outLine ("Trust policy is configured to skip signature verification for " ++ reference)
    else .outLine ("Successfully verified signature for " ++ reference) ++ metadataReport o

/-- What is written about outcomes, of which the first counts. -/
def report (reference : String) : List Outcome → Except Failure Transcript
  | [] => .error .noOutcome
  | o :: _ => .ok (outcomeReport reference o)

end ArtifactTrust.Command
