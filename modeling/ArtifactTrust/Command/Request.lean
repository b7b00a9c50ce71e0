import ArtifactTrust.Command.Arguments
import ArtifactTrust.Command.Experimental
import ArtifactTrust.Command.Pairs
import ArtifactTrust.Reference

/-!
# Requests

What the command that verifies an artifact is asked for, once its arguments make sense
together. Nothing is read and nobody is asked before that.
-/

namespace ArtifactTrust.Command

set_option autoImplicit false

structure VerifyRequest where
  reference : String
  pluginConfig : Labels
  userMetadata : Labels
  source : Source
  /-- The scope that takes the place of the locator, for an image layout. -/
  scope : Option String
deriving DecidableEq, Repr

inductive RequestFault where
  | noReference
  | noScope
  | noLayout
  | experimental (options : List String)
  | pair (fault : PairFault)
  | noPassword
  | noUsername
deriving DecidableEq, Repr

def verifyCommand : String := "seal verify"

def incompleteGroup (missing : String) : String :=
  "if any flags in the group [oci-layout scope] are set they must all be set; missing [" ++
    missing ++ "]"

def RequestFault.message : RequestFault → String
  | noReference => "missing reference"
  | noScope => incompleteGroup "scope"
  | noLayout => incompleteGroup "oci-layout"
  | experimental options => Experiments.refusal verifyCommand options
  | pair fault => fault.message
  | noPassword => "--password is required when --username is set"
  | noUsername => "--username is required when --password is set"

namespace VerifyArguments

/-- Whether the options for an image layout are given both or not at all. -/
def checkGroup (a : VerifyArguments) : Except RequestFault Unit :=
  match a.ociLayout, a.scope with
  | true, none => .error .noScope
  | false, some _ => .error .noLayout
  | _, _ => .ok ()

def experimental (a : VerifyArguments) : List String :=
  (if a.ociLayout then ["oci-layout"] else []) ++ (if a.scope.isSome then ["scope"] else [])

def checkExperiments (a : VerifyArguments) (e : Experiments) :
    Except RequestFault (Option String) :=
  match e.check verifyCommand a.experimental with
  | .ok warning => .ok warning
  | .error _ => .error (.experimental a.experimental)

def checkPairs (option : String) (values : List String) : Except RequestFault Labels :=
  match pairs option values with
  | .ok labels => .ok labels
  | .error fault => .error (.pair fault)

def checkCredentials (a : VerifyArguments) : Except RequestFault Unit :=
  match a.username, a.password with
  | some _, none => .error .noPassword
  | none, some _ => .error .noUsername
  | _, _ => .ok ()

def assemble (a : VerifyArguments) (reference : String) : Except RequestFault VerifyRequest := do
  let pluginConfig ← checkPairs "--plugin-config" a.pluginConfig
  let userMetadata ← checkPairs "--user-metadata" a.userMetadata
  a.checkCredentials
  return ⟨reference, pluginConfig, userMetadata, if a.ociLayout then .layout else .registry,
    a.scope⟩

/-- The request that arguments make up, and the warning that goes with it, which is written
even where a later rule is violated. -/
def request (a : VerifyArguments) (e : Experiments) :
    Option String × Except RequestFault VerifyRequest :=
  match a.reference with
  | none => (none, .error .noReference)
  | some reference =>
    match a.checkGroup with
    | .error fault => (none, .error fault)
    | .ok () =>
      match a.checkExperiments e with
      | .error fault => (none, .error fault)
      | .ok warning => (warning, a.assemble reference)

end VerifyArguments

end ArtifactTrust.Command
