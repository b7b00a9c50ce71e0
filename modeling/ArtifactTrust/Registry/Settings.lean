import ArtifactTrust.Environment
import ArtifactTrust.Json.Record
import ArtifactTrust.Text.Base64
import ArtifactTrust.Text.Decimal

/-!
# Settings for registries

How a client talks to a registry: with or without encryption, as whom, and how patiently.
Passwords and tokens are read from documents, but not written.
-/

namespace ArtifactTrust

set_option autoImplicit false

open Json

structure RegistrySettings where
  plain : Bool
  username : Option String
  password : Option String
  /-- A bearer token, which goes before name and password. -/
  token : Option String
  /-- Seconds until a request is given up. -/
  timeout : UInt64
  /-- How often an exchange that may succeed later is repeated. -/
  maxRetries : UInt32
deriving DecidableEq, Repr

namespace RegistrySettings

def defaultTimeout : UInt64 := 30

def defaultMaxRetries : UInt32 := 3

def initial : RegistrySettings := ⟨false, none, none, none, defaultTimeout, defaultMaxRetries⟩

def usernameVariable : String := "SEAL_USERNAME"

def passwordVariable : String := "SEAL_PASSWORD"

def tokenVariable : String := "SEAL_REGISTRY_TOKEN"

def timeoutVariable : String := "SEAL_REGISTRY_TIMEOUT"

def maxRetriesVariable : String := "SEAL_REGISTRY_MAX_RETRIES"

/-- The settings from the environment; a variable that makes no sense counts as not set. -/
def ofEnvironment (env : Environment) : RegistrySettings where
  plain := false
  username := env.nonempty? usernameVariable
  password := env.nonempty? passwordVariable
  token := env.nonempty? tokenVariable
  timeout :=
    (((env.get? timeoutVariable).bind (Text.unsigned? UInt64.size)).map UInt64.ofNat).getD
      defaultTimeout
  maxRetries :=
    (((env.get? maxRetriesVariable).bind (Text.unsigned? UInt32.size)).map UInt32.ofNat).getD
      defaultMaxRetries

def withCredentials (s : RegistrySettings) (username password : String) : RegistrySettings :=
  { s with username := some username, password := some password }

def withToken (s : RegistrySettings) (token : String) : RegistrySettings :=
  { s with token := some token }

def withPlain (s : RegistrySettings) (plain : Bool) : RegistrySettings := { s with plain := plain }

def withMaxRetries (s : RegistrySettings) (count : UInt32) : RegistrySettings :=
  { s with maxRetries := count }

def basic (username password : String) : String :=
  "Basic " ++ Text.Base64.encoded (username ++ ":" ++ password).toUTF8.data.toList

/-- What a client says about itself: its token, or else its name and password. -/
def authorization (s : RegistrySettings) : Option String :=
  match s.token, s.username, s.password with
  | some token, _, _ => some ("Bearer " ++ token)
  | none, some username, some password => some (basic username password)
  | none, _, _ => none

def ofValue? (v : Value) : Option RegistrySettings := do
  match ← v.fields?
      ["plain_http", "username", "password", "token", "timeout_secs", "max_retries"] with
  | [plain, username, password, token, timeout, maxRetries] =>
    return ⟨← Value.orDefault false Value.asBool? plain, ← Value.optional Value.asString? username,
      ← Value.optional Value.asString? password, ← Value.optional Value.asString? token,
      ← Value.orDefault defaultTimeout Value.asUInt64? timeout,
      ← Value.orDefault defaultMaxRetries Value.asUInt32? maxRetries⟩
  | _ => none

/-- Writes settings without their secrets. -/
def toValue (s : RegistrySettings) : Value :=
  .object
    [Value.member "plain_http" (.bool s.plain),
      Value.member "username" ((s.username.map .ofString).getD .null),
      Value.member "timeout_secs" (.natural s.timeout.toNat),
      Value.member "max_retries" (.natural s.maxRetries.toNat)]

instance : Record RegistrySettings := ⟨ofValue?, toValue⟩

end RegistrySettings

end ArtifactTrust
