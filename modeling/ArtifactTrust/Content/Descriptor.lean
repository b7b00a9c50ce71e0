import ArtifactTrust.Digest
import ArtifactTrust.Json.Record

/-!
# Content descriptors

A descriptor says of some content which kind it is, which digest it has and how long it is.
-/

namespace ArtifactTrust

set_option autoImplicit false

open Json

/-- What is known of some content without having it. -/
structure Descriptor where
  mediaType : String
  /-- The digest of the content, which need not be well formed. -/
  digest : String
  size : UInt64
  /-- The kind of artifact, where the content is the manifest of one. -/
  artifactType : Option String
  annotations : Option Labels
deriving DecidableEq, Repr

namespace Descriptor

def ofContent (mediaType : String) (content : ByteArray) : Descriptor :=
  ⟨mediaType, Digest.ofContent .sha256 content, UInt64.ofNat content.size, none, none⟩

def annotation? (d : Descriptor) (name : String) : Option String :=
  d.annotations.bind (·.get? name)

def ofValue? (v : Value) : Option Descriptor := do
  match ← v.fields? ["mediaType", "digest", "size", "artifactType", "annotations"] with
  | [mediaType, digest, size, artifactType, annotations] =>
    return ⟨← Value.required Value.asString? mediaType, ← Value.required Value.asString? digest,
      ← Value.required Value.asUInt64? size, ← Value.optional Value.asString? artifactType,
      ← Value.optional Value.asLabels? annotations⟩
  | _ => none

/-- Writes a descriptor; what is absent is left out. -/
def toValue (d : Descriptor) : Value :=
  .object <|
    [Value.member "mediaType" (.ofString d.mediaType), Value.member "digest" (.ofString d.digest),
      Value.member "size" (.natural d.size.toNat)] ++
    Value.memberOf? "artifactType" .ofString d.artifactType ++
    Value.memberOf? "annotations" .ofLabels d.annotations

instance : Record Descriptor := ⟨ofValue?, toValue⟩

end Descriptor

end ArtifactTrust
