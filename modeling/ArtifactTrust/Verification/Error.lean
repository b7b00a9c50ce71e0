import ArtifactTrust.Repository.Error

/-!
# Why an artifact is not verified

A rejected signature is one cause among others: it sends the search on to the next signature,
whereas any other cause ends it.
-/

namespace ArtifactTrust

set_option autoImplicit false

inductive VerificationError where
  /-- No signature counts. -/
  | rejected (reason : String)
  /-- The reference does not name an artifact by its digest. -/
  | invalidReference (reference reason : String)
  /-- No statement of the trust policy governs the artifact. -/
  | noStatement (reference : String)
  /-- The trust policy is missing or malformed. -/
  | policy (detail : String)
  /-- The trust store is missing or malformed. -/
  | trustStore (detail : String)
  /-- The verifier is not configured to do this. -/
  | config (detail : String)
  /-- The repository could not answer. -/
  | repository (cause : RepositoryError)
deriving DecidableEq, Repr

namespace VerificationError

def message : VerificationError → String
  | rejected reason => reason
  | invalidReference reference reason =>
    "invalid artifact reference: " ++ reference ++ " - " ++ reason
  | noStatement reference =>
    "artifact " ++ reference ++ " has no applicable trust policy statement"
  | policy detail => "trust policy error: " ++ detail
  | trustStore detail => "trust store error: " ++ detail
  | config detail => "configuration error: " ++ detail
  | repository cause => cause.message

/-- Whether a signature was looked at and rejected. -/
def isRejection : VerificationError → Bool
  | rejected _ => true
  | _ => false

end VerificationError

end ArtifactTrust
