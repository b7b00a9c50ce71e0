import ArtifactTrust.Content.MediaType
import ArtifactTrust.Repository.Basic
import ArtifactTrust.Text.Cut
import ArtifactTrust.Verification.Verifier

/-!
# Verifying an artifact

The signatures of an artifact are looked at one after another until the verifier accepts one.
A signature that is rejected, or that carries no envelope, makes way for the next; any other
failure ends the search.
-/

namespace ArtifactTrust

set_option autoImplicit false

variable {m : Type → Type} [Monad m]

inductive NoSignature where
  | unsigned (reference : String)
  | limit (attempts : Nat)
  | allRejected (reference : String)
deriving DecidableEq, Repr

def NoSignature.message : NoSignature → String
  | unsigned reference =>
    "no signature is associated with \"" ++ reference ++
      "\", make sure the artifact was signed successfully"
  | limit attempts =>
    "signature evaluation stopped. The configured limit of " ++ toString attempts ++
      " signatures to verify per artifact exceeded"
  | allRejected reference =>
    "no signature associated with \"" ++ reference ++ "\" passed verification"

namespace VerifyOptions

def unlimited : Nat := UInt64.size - 1

/-- The well-formed digest at the end of the reference. -/
def digest (o : VerifyOptions) : Except VerificationError String :=
  match Text.cutLast? '@' o.reference with
  | none => .error (.invalidReference o.reference "reference is not digest-qualified")
  | some (_, digest) =>
    match Digest.validate digest with
    | .ok _ => .ok digest
    | .error fault => .error (.invalidReference o.reference fault.message)

end VerifyOptions

namespace Verifier

def asking {α : Type} (action : ExceptT RepositoryError m α) : ExceptT VerificationError m α :=
  ExceptT.mk do
    match ← action.run with
    | .ok a => return .ok a
    | .error cause => return .error (.repository cause)

/-- The outcome for one signature, unless it is rejected or carries no envelope. -/
def attempt (verifier : Verifier m) (repository : Repository m) (options : VerifyOptions)
    (target signature : Descriptor) : ExceptT VerificationError m (Option Outcome) := do
  let manifest ← asking (repository.fetchManifest signature)
  match manifest.layers.find? (·.mediaType = MediaType.envelope) with
  | none => return none
  | some layer =>
    let envelope ← asking (repository.fetchBlob layer)
    match ← ExceptT.lift (verifier.verify target envelope options).run with
    | .ok outcome => return some outcome
    | .error e => if e.isRejection then return none else throw e

/-- The outcome for the first signature that is not rejected, among as many as `attempts`. -/
def search (verifier : Verifier m) (repository : Repository m) (options : VerifyOptions)
    (target : Descriptor) : Nat → List Descriptor → ExceptT VerificationError m Outcome
  | _, [] => throw (.rejected (NoSignature.allRejected options.reference).message)
  | 0, _ :: _ => throw (.rejected (NoSignature.limit options.maxAttempts).message)
  | attempts + 1, signature :: rest => do
    match ← verifier.attempt repository options target signature with
    | some outcome => return outcome
    | none => search verifier repository options target attempts rest

/-- The descriptor of an artifact and the outcome for the signature that is accepted. -/
def run (verifier : Verifier m) (repository : Repository m) (options : VerifyOptions) :
    ExceptT VerificationError m (Descriptor × List Outcome) := do
  let digest ← ExceptT.mk (pure options.digest)
  let target ← asking (repository.resolve digest)
  if (← verifier.skipLevel options).isSome then return (target, [.skipped])
  if options.maxAttempts = 0 then
    throw (.config "max_signature_attempts must be greater than 0")
  let signatures ← asking (repository.listSignatures target)
  if signatures.isEmpty then
    throw (.rejected (NoSignature.unsigned options.reference).message)
  let outcome ← verifier.search repository options target options.maxAttempts signatures
  return (target, [outcome])

end Verifier

end ArtifactTrust
