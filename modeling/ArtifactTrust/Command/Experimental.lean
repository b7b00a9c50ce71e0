import ArtifactTrust.Environment

/-!
# Experimental options

Some options are still experimental. They are refused, and kept out of the help, unless the
environment says that experiments are welcome; and then there is a warning.
-/

namespace ArtifactTrust.Command

set_option autoImplicit false

structure Experiments where
  enabled : Bool
deriving DecidableEq, Repr

namespace Experiments

def switchVariable : String := "SEAL_EXPERIMENTAL"

def consent : String := "1"

def ofEnvironment (env : Environment) : Experiments := ⟨env.get? switchVariable = some consent⟩

def warning : String :=
  "Warning: This feature is experimental and may not be fully tested or completed and may be " ++
    "deprecated. Report any issues to \"https://github.com/seal-dev/seal\""

def refusal (command : String) (options : List String) : String :=
  "flag(s) " ++ ",".intercalate (options.map ("--" ++ ·)) ++ " in \"" ++ command ++
    "\" is experimental and not enabled by default. To use, please set " ++ switchVariable ++ "=" ++
    consent ++ " environment variable"

/-- The warning for experimental options that are given to a command, or else the refusal. -/
def check (e : Experiments) (command : String) (options : List String) :
    Except String (Option String) :=
  if options.isEmpty then .ok none
  else if e.enabled then .ok (some warning)
  else .error (refusal command options)

/-- The options that the help keeps quiet about, among those of a command in order. -/
def hidden (e : Experiments) (experimental options : List String) : List String :=
  if e.enabled then [] else options.filter experimental.contains

end Experiments

end ArtifactTrust.Command
