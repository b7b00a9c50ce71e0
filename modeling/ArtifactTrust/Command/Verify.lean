import ArtifactTrust.Command.Report
import ArtifactTrust.Repository.Resolution
import ArtifactTrust.Verification.Walk

/-!
# Verifying and reporting

The work of the command that verifies an artifact, over any repository and any verifier: pin
the reference, verify what it is pinned to, and report.
-/

namespace ArtifactTrust.Command

set_option autoImplicit false

def tagWarning (tag : String) : Transcript :=
  .errLine ("Warning: Always verify the artifact using digest(@sha256:...) rather than a tag(:" ++
    tag ++ ") because resolved digest may not point to the same signed artifact, as tags are " ++
    "mutable.")

def referenceWarning (reference : Reference) : Transcript :=
  match reference.tag? with
  | some tag => tagWarning tag
  | none => .empty

/-- What the verification of a pinned reference is asked. -/
def VerifyRequest.options (request : VerifyRequest) (resolved : Resolved) : VerifyOptions where
  reference := resolved.intended request.scope
  pluginConfig := request.pluginConfig
  maxAttempts := VerifyOptions.unlimited
  userMetadata := request.userMetadata

/-- The report on what came of a verification, behind what is written already. -/
def conclude (written : Transcript) (reference : String)
    (result : Except VerificationError (Descriptor × List Outcome)) :
    Transcript × Except Failure Unit :=
  match settled reference (result.map Prod.snd) with
  | .error failure => (written, .error failure)
  | .ok outcomes =>
    match report reference outcomes with
    | .error failure => (written, .error failure)
    | .ok t => (written ++ t, .ok ())

def verify {m : Type → Type} [Monad m] (request : VerifyRequest) (artifact : Reference)
    (repository : Repository m) (verifier : Verifier m) :
    m (Transcript × Except Failure Unit) := do
  match ← (artifact.resolve repository).run with
  | .error cause => return (.empty, .error (.repository cause))
  | .ok (_, resolved) =>
    let result ← (verifier.run repository (request.options resolved)).run
    return conclude (referenceWarning artifact) resolved.text result

end ArtifactTrust.Command
