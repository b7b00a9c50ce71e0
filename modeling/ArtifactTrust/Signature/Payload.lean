import ArtifactTrust.Content.Descriptor
import ArtifactTrust.Time.Text

/-!
# Signed payloads

The statement that a signature makes: which artifact it is about, when it was made and when it
stops being valid. What the signer says about the artifact stands in its annotations.
-/

namespace ArtifactTrust

set_option autoImplicit false

open Json Time

structure Payload where
  target : Descriptor
  signedAt : Instant
  expiresAt : Option Instant
deriving DecidableEq, Repr

namespace Payload

def asInstant? (v : Value) : Option Instant := do Instant.parse? (← v.asString?)

def ofValue? (v : Value) : Option Payload := do
  match ← v.fields? ["targetArtifact", "signedAt", "expiresAt"] with
  | [target, signedAt, expiresAt] =>
    return ⟨← Value.required Descriptor.ofValue? target, ← Value.required asInstant? signedAt,
      ← Value.optional asInstant? expiresAt⟩
  | _ => none

def toValue (p : Payload) : Value :=
  .object <|
    [Value.member "targetArtifact" p.target.toValue,
      Value.member "signedAt" (.ofString p.signedAt.text)] ++
    Value.memberOf? "expiresAt" (fun i => .ofString i.text) p.expiresAt

instance : Record Payload := ⟨ofValue?, toValue⟩

end Payload

end ArtifactTrust
