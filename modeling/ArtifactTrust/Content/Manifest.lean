import ArtifactTrust.Content.Descriptor

/-!
# Manifests and indexes

A manifest describes one artifact by its layers and may name another one as its subject. An
index lists manifests.
-/

namespace ArtifactTrust

set_option autoImplicit false

open Json

structure Manifest where
  schemaVersion : UInt32
  mediaType : Option String
  artifactType : Option String
  config : Descriptor
  layers : List Descriptor
  /-- The artifact that this one is about. -/
  subject : Option Descriptor
  annotations : Option Labels
deriving DecidableEq, Repr

namespace Manifest

/-- The kind of artifact, which is the media type of the configuration unless it is given. -/
def effectiveType (m : Manifest) : String := m.artifactType.getD m.config.mediaType

def ofValue? (v : Value) : Option Manifest := do
  match ← v.fields?
      ["schemaVersion", "mediaType", "artifactType", "config", "layers", "subject",
        "annotations"] with
  | [schemaVersion, mediaType, artifactType, config, layers, subject, annotations] =>
    return ⟨← Value.required Value.asUInt32? schemaVersion,
      ← Value.optional Value.asString? mediaType, ← Value.optional Value.asString? artifactType,
      ← Value.required Descriptor.ofValue? config,
      ← Value.orDefault [] (Value.asList? Descriptor.ofValue?) layers,
      ← Value.optional Descriptor.ofValue? subject, ← Value.optional Value.asLabels? annotations⟩
  | _ => none

def toValue (m : Manifest) : Value :=
  .object <|
    [Value.member "schemaVersion" (.natural m.schemaVersion.toNat)] ++
    Value.memberOf? "mediaType" .ofString m.mediaType ++
    Value.memberOf? "artifactType" .ofString m.artifactType ++
    [Value.member "config" m.config.toValue,
      Value.member "layers" (.array (m.layers.map Descriptor.toValue))] ++
    Value.memberOf? "subject" Descriptor.toValue m.subject ++
    Value.memberOf? "annotations" .ofLabels m.annotations

instance : Record Manifest := ⟨ofValue?, toValue⟩

end Manifest

structure Index where
  schemaVersion : UInt32
  mediaType : Option String
  manifests : List Descriptor
deriving DecidableEq, Repr

namespace Index

def empty : Index := ⟨0, none, []⟩

def ofValue? (v : Value) : Option Index := do
  match ← v.fields? ["schemaVersion", "mediaType", "manifests"] with
  | [schemaVersion, mediaType, manifests] =>
    return ⟨← Value.required Value.asUInt32? schemaVersion,
      ← Value.optional Value.asString? mediaType,
      ← Value.orDefault [] (Value.asList? Descriptor.ofValue?) manifests⟩
  | _ => none

def toValue (i : Index) : Value :=
  .object <|
    [Value.member "schemaVersion" (.natural i.schemaVersion.toNat)] ++
    Value.memberOf? "mediaType" .ofString i.mediaType ++
    [Value.member "manifests" (.array (i.manifests.map Descriptor.toValue))]

instance : Record Index := ⟨ofValue?, toValue⟩

end Index

end ArtifactTrust
