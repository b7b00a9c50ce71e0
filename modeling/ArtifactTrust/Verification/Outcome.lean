import ArtifactTrust.Policy.Level
import ArtifactTrust.Signature.Payload
import ArtifactTrust.Verification.Error

/-!
# Outcomes

What is known of an artifact once its signature is accepted, or once its policy says that
signatures do not matter.
-/

namespace ArtifactTrust

set_option autoImplicit false

/-- The result of one check that was made. -/
structure CheckResult where
  check : Check
  action : Action
  failure : Option String
deriving DecidableEq, Repr

structure Outcome where
  /-- The level of the statement that governs the artifact. -/
  level : Level
  /-- The results of the checks, in the order in which they were made. -/
  results : List CheckResult
  /-- The payload of the accepted signature, unless verification was skipped. -/
  payload : Option Payload
deriving DecidableEq, Repr

namespace Outcome

def skipped : Outcome := ⟨.skip, [], none⟩

def userMetadata (o : Outcome) : Except VerificationError Labels :=
  match o.payload with
  | some payload => .ok (payload.target.annotations.getD ∅)
  | none => .error (.config "outcome carries no verified payload")

end Outcome

end ArtifactTrust
