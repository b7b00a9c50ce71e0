import ArtifactTrust.NameMap
import ArtifactTrust.Text.Blank
import ArtifactTrust.Text.Cut
import ArtifactTrust.Text.Quoted

/-!
# Names with values on the command line

An option that is given as `name=value` any number of times. Outer blanks do not count, the
first `=` separates, and no name may be given twice.
-/

namespace ArtifactTrust.Command

set_option autoImplicit false

open Text

inductive PairFault where
  | noSeparator (option : String)
  | sameName (option name : String)
deriving DecidableEq, Repr

def PairFault.message : PairFault → String
  | noSeparator option =>
    "could not parse flag " ++ option ++ ": key-value pair requires \"=\" as separator"
  | sameName option name =>
    "could not parse flag " ++ option ++ ": key " ++ quoted name ++ " duplicates"

def pair? (s : String) : Option (String × String) := cutFirst? '=' (trimmed s)

/-- Puts pairs into a map, in order. -/
def addPairs (option : String) (found : Labels) : List String → Except PairFault Labels
  | [] => .ok found
  | s :: rest =>
    match pair? s with
    | none => .error (.noSeparator option)
    | some (name, value) =>
      if found.contains name then .error (.sameName option name)
      else addPairs option (found.insert name value) rest

def pairs (option : String) (values : List String) : Except PairFault Labels :=
  addPairs option ∅ values

end ArtifactTrust.Command
