import ArtifactTrust.Files.Basic
import ArtifactTrust.NameMap

/-!
# The environment

Settings that come from the environment are read from a map of its variables. The directory
of the configuration is the one that is set for it, or else a directory of that purpose below
the directory for the user's settings.
-/

namespace ArtifactTrust

set_option autoImplicit false

abbrev Environment := NameMap String

namespace Environment

def directoryVariable : String := "SEAL_CONFIG_DIR"

def userDirectoryVariable : String := "XDG_CONFIG_HOME"

def homeVariable : String := "HOME"

/-- The value of a variable that is set and not empty. -/
def nonempty? (env : Environment) (name : String) : Option String :=
  (env.get? name).filter fun v => !v.isEmpty

def userDirectory? (env : Environment) : Option String :=
  match (env.get? userDirectoryVariable).filter FilePath.isAbsolute with
  | some directory => some directory
  | none => (env.nonempty? homeVariable).map (FilePath.join · ".config")

def configDirectory? (env : Environment) : Option String :=
  match env.nonempty? directoryVariable with
  | some directory => some directory
  | none => (env.userDirectory?).map (FilePath.join · "seal")

def noDirectory : String :=
  "could not determine the user configuration directory; set " ++ directoryVariable

end Environment

end ArtifactTrust
