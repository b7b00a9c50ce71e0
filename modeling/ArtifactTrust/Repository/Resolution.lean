import ArtifactTrust.Reference
import ArtifactTrust.Repository.Basic

/-!
# Resolving references

A reference is pinned to a digest before anything else is done with it: what a tag names may
change, what a digest names may not.
-/

namespace ArtifactTrust

set_option autoImplicit false

inductive ResolutionMethod where
  | tag
  | digest
deriving DecidableEq, Repr

/-- A reference that is pinned to a digest. -/
structure Resolved where
  given : Reference
  pinned : Reference
  method : ResolutionMethod
deriving DecidableEq, Repr

namespace Resolved

def text (r : Resolved) : String := r.pinned.text

/-- The reference that the policy is asked for: a scope, where one is given, takes the place
of the locator. -/
def intended (r : Resolved) (scope : Option String) : String :=
  match scope, r.pinned.digest? with
  | some scope, some digest => if scope.isEmpty then r.text else scope ++ "@" ++ digest
  | _, _ => r.text

end Resolved

def Reference.resolved (r : Reference) (d : Descriptor) : Resolved :=
  ⟨r, r.withDigest d.digest, if r.tag?.isSome then .tag else .digest⟩

def Reference.resolve {m : Type → Type} [Monad m] (r : Reference) (repository : Repository m) :
    ExceptT RepositoryError m (Descriptor × Resolved) := do
  let d ← repository.resolve r.selector.text
  return (d, r.resolved d)

end ArtifactTrust
