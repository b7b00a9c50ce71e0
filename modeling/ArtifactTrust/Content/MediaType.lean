/-!
# Media types

The media types that an image layout or a registry uses, and those of signatures.
-/

namespace ArtifactTrust.MediaType

def imageManifest : String := "application/vnd.oci.image.manifest.v1+json"

def imageIndex : String := "application/vnd.oci.image.index.v1+json"

/-- The older kind of manifest that registries also serve. -/
def dockerManifest : String := "application/vnd.docker.distribution.manifest.v2+json"

def signature : String := "application/vnd.seal.signature.v1"

/-- The layer of a signature manifest that holds the signed envelope. -/
def envelope : String := "application/vnd.dsse.envelope.v1+json"

def payload : String := "application/vnd.seal.payload.v1+json"

end ArtifactTrust.MediaType
