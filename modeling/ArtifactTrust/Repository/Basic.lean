import ArtifactTrust.Content.Manifest
import ArtifactTrust.Repository.Error

/-!
# Repositories

What verification needs of the place where an artifact and its signatures are kept. A
`Repository m` answers with effects in `m`, so it may answer one question in two ways at
different times; nothing but its answers is known of it.
-/

namespace ArtifactTrust

set_option autoImplicit false

/-- A provider of artifacts and their signatures. -/
structure Repository (m : Type → Type) where
  /-- The descriptor of what a tag or a digest names. -/
  resolve : String → ExceptT RepositoryError m Descriptor
  /-- The manifest with a descriptor. -/
  fetchManifest : Descriptor → ExceptT RepositoryError m Manifest
  /-- The content with a descriptor. -/
  fetchBlob : Descriptor → ExceptT RepositoryError m ByteArray
  /-- The descriptors of the signature manifests whose subject has a descriptor. -/
  listSignatures : Descriptor → ExceptT RepositoryError m (List Descriptor)

end ArtifactTrust
