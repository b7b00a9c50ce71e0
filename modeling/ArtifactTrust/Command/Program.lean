import ArtifactTrust.Command.Verify
import ArtifactTrust.Registry.Repository
import ArtifactTrust.Repository.Layout
import ArtifactTrust.Verification.Configuration

/-!
# The program

From the words of a command line to what is written and the exit code, over any files, network
and clock.
-/

namespace ArtifactTrust.Command

set_option autoImplicit false

def programVersion : String := "0.3.0"

def programName : String := "seal"

def usageText : String :=
  "Verify signatures of OCI artifacts against a local trust policy\n\n" ++
    "Usage: " ++ programName ++ " <COMMAND>\n\n" ++
    "Commands:\n" ++
    "  verify   Verify OCI artifacts\n" ++
    "  version  Print the " ++ programName ++ " version\n" ++
    "  help     Print this message or the help of the given subcommand(s)\n\n" ++
    "Options:\n" ++
    "  -h, --help     Print help\n" ++
    "  -V, --version  Print version\n"

def Usage.transcript : Usage → Transcript
  | help => ⟨usageText, ""⟩
  | version => .outLine (programName ++ " " ++ programVersion)
  | nothingToDo => ⟨"", usageText⟩
  | unknownCommand => .errLine "error: unrecognized subcommand"
  | unknownArgument => .errLine "error: unexpected argument found"
  | valueForSwitch => .errLine "error: unexpected value found"
  | missingValue => .errLine "error: a value is required but none was supplied"
  | conflict => .errLine "error: the argument cannot be used with another one"

def variableNames : List String :=
  [Environment.directoryVariable, Environment.userDirectoryVariable, Environment.homeVariable,
    Experiments.switchVariable, RegistrySettings.usernameVariable,
    RegistrySettings.passwordVariable, RegistrySettings.tokenVariable,
    RegistrySettings.timeoutVariable, RegistrySettings.maxRetriesVariable]

/-- What the program has to work with. -/
structure World (m : Type → Type) where
  files : Files m
  network : Network m
  clock : m Time.Instant

variable {m : Type → Type} [Monad m]

def World.repository (w : World m) (source : Source) (reference : Reference)
    (settings : RegistrySettings) : ExceptT RepositoryError m (Repository m) :=
  match source with
  | .registry =>
    match RemoteRepository.open? reference.registry reference.repository settings with
    | .ok remote => return remote.repository w.network
    | .error cause => throw cause
  | .layout => do return (← Layout.open? w.files reference.locator).repository w.files

def World.answer (w : World m) (env : Environment) (settings : RegistrySettings)
    (request : VerifyRequest) : m (Transcript × Except Failure Unit) := do
  match ← (KeyVerifier.ofEnvironment w.files env).run with
  | .error cause => return (.empty, .error (.configuration cause))
  | .ok verifier =>
    match Reference.parse request.source request.reference with
    | .error cause => return (.empty, .error (.repository cause))
    | .ok artifact =>
      match ← (w.repository request.source artifact settings).run with
      | .error cause => return (.empty, .error (.repository cause))
      | .ok repository => verify request artifact repository (verifier.withClock w.clock)

def World.runVerify (w : World m) (env : Environment) (arguments : VerifyArguments) :
    m (Transcript × Except Failure Unit) := do
  let (warning, request) := arguments.request (.ofEnvironment env)
  let written := (warning.map Transcript.errLine).getD .empty
  match request with
  | .error fault => return (written, .error (.request fault))
  | .ok request =>
    let (t, result) ← w.answer env (arguments.settings env) request
    return (written ++ t, result)

/-- The exit code of a result, and what is written at the end. -/
def finish : Transcript × Except Failure Unit → Nat × Transcript
  | (written, .ok ()) => (0, written)
  | (written, .error failure) => (1, written ++ .errLine ("Error: " ++ failure.message))

def World.run (w : World m) (env : Environment) : Subcommand → m (Nat × Transcript)
  | .version => return (0, .outLine programVersion)
  | .verify arguments => do return finish (← w.runVerify env arguments)

def World.main (w : World m) (env : Environment) (words : List String) :
    m (Nat × Transcript) :=
  match parse env words with
  | .ok command => w.run env command
  | .error usage => return (usage.code, usage.transcript)

end ArtifactTrust.Command
