import ArtifactTrust.Environment
import ArtifactTrust.Verification.Verifier

/-!
# The configuration of the verifier

The directory of the configuration holds the trust policy, `trustpolicy.json`, and the trust
stores that it names, below `truststore`. Nothing else is read.
-/

namespace ArtifactTrust

set_option autoImplicit false

namespace Policy

variable {m : Type → Type} [Monad m]

def load (files : Files m) (path : String) : ExceptT Fault m Policy :=
  ExceptT.mk do
    match ← (files.readText path).run with
    | .ok text => return parse text.toUTF8
    | .error fault => return .error (.unreadable path fault.message)

end Policy

namespace KeyVerifier

variable {m : Type → Type} [Monad m]

def policyPath (directory : String) : String := FilePath.join directory "trustpolicy.json"

def storesPath (directory : String) : String := FilePath.join directory "truststore"

def load (files : Files m) (directory : String) : ExceptT VerificationError m KeyVerifier :=
  ExceptT.mk do
    match ← (Policy.load files (policyPath directory)).run with
    | .error fault => return .error (.policy fault.message)
    | .ok policy =>
      match ← (TrustStore.load files (storesPath directory) policy.trustStores).run with
      | .error fault => return .error (.trustStore fault.message)
      | .ok store => return .ok ⟨policy, store⟩

def ofEnvironment (files : Files m) (env : Environment) :
    ExceptT VerificationError m KeyVerifier :=
  match env.configDirectory? with
  | some directory => load files directory
  | none => throw (.config Environment.noDirectory)

end KeyVerifier

end ArtifactTrust
