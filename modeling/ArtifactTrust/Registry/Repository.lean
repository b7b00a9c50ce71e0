import ArtifactTrust.Content.MediaType
import ArtifactTrust.Registry.Client
import ArtifactTrust.Repository.Basic

/-!
# Repositories of a registry

A repository on a registry is read over the distribution interface: manifests by tag or digest,
content by digest, and signatures as the manifests that refer to an artifact. A registry that
does not keep track of references may list them under a tag made from the digest.
-/

namespace ArtifactTrust

set_option autoImplicit false

open Registry

structure RemoteRepository where
  /-- Where everything in the repository is found. -/
  base : String
  name : String
  settings : RegistrySettings
deriving DecidableEq, Repr

namespace RemoteRepository

def manifestTypes : String :=
  MediaType.imageManifest ++ ", " ++ MediaType.imageIndex ++ ", " ++ MediaType.dockerManifest

def open? (registry repository : String) (settings : RegistrySettings) :
    Except RepositoryError RemoteRepository :=
  let base := Url.schemeText (!settings.plain) ++ registry ++ "/v2/" ++ repository
  match Url.parse base with
  | .ok _ => .ok ⟨base, registry ++ "/" ++ repository, settings⟩
  | .error fault =>
    .error (.config ("invalid registry URL " ++ base ++ ": " ++ fault.message))

def manifestUrl (r : RemoteRepository) (reference : String) : String :=
  r.base ++ "/manifests/" ++ reference

def blobUrl (r : RemoteRepository) (digest : String) : String := r.base ++ "/blobs/" ++ digest

def referrersUrl (r : RemoteRepository) (digest : String) : Except RepositoryError String :=
  match Url.parse (r.base ++ "/referrers/" ++ digest) with
  | .ok url => .ok (url.withParameter "artifactType" MediaType.signature).text
  | .error fault => .error (.config ("invalid referrers URL: " ++ fault.message))

def isDigest (reference : String) : Bool := Text.holds ':' reference

def referenceText (r : RemoteRepository) (reference : String) : String :=
  r.name ++ (if isDigest reference then "@" else ":") ++ reference

/-- The tag under which references to an artifact may be listed. -/
def referrersTag (digest : String) : String :=
  match Text.cutFirst? ':' digest with
  | some (algorithm, encoded) => algorithm ++ "-" ++ encoded
  | none => digest

def body {m : Type → Type} [Monad m] (what : String) (a : Answer) :
    ExceptT RepositoryError m ByteArray :=
  match a.body with
  | some content => return content
  | none => throw (.network ("failed to read " ++ what ++ " body: error decoding response body"))

def indexIn {m : Type → Type} [Monad m] (what : String) (a : Answer) :
    ExceptT RepositoryError m Index :=
  match a.body.bind fun content => (Json.decode? content : Option Index) with
  | some index => return index
  | none =>
    throw (.invalidResponse ("failed to parse " ++ what ++ ": error decoding response body"))

variable {m : Type → Type} [Monad m] (network : Network m)

def manifestContent (r : RemoteRepository) (reference : String) :
    ExceptT RepositoryError m ByteArray := do
  let answer ← request network r.settings .get (r.manifestUrl reference) manifestTypes
    (r.referenceText reference)
  body "manifest" answer

/-- The digest and the size of a manifest, as the registry describes it or by its content. -/
def describe (r : RemoteRepository) (reference : String) (a : Answer) :
    ExceptT RepositoryError m (String × UInt64) := do
  let size := (a.headerValue? "content-length").bind (Text.unsigned? UInt64.size)
  match a.headerValue? "docker-content-digest", size with
  | some digest, some size => return (digest, UInt64.ofNat size)
  | _, _ =>
    let content ← r.manifestContent network reference
    return (Digest.ofContent .sha256 content, UInt64.ofNat content.size)

def resolve (r : RemoteRepository) (reference : String) :
    ExceptT RepositoryError m Descriptor := do
  let answer ← request network r.settings .head (r.manifestUrl reference) manifestTypes
    (r.referenceText reference)
  let mediaType := (answer.headerValue? "content-type").getD MediaType.imageManifest
  let (digest, size) ← r.describe network reference answer
  if isDigest reference && digest ≠ reference then throw (.digestMismatch reference digest)
  return ⟨mediaType, digest, size, none, none⟩

def checked (digest : String) (content : ByteArray) : ExceptT RepositoryError m Unit :=
  ExceptT.mk (pure (Digest.verifyContent digest content))

def fetchManifest (r : RemoteRepository) (d : Descriptor) : ExceptT RepositoryError m Manifest := do
  let content ← r.manifestContent network d.digest
  checked d.digest content
  match (Json.decode? content : Option Manifest) with
  | some manifest => return manifest
  | none =>
    throw (.invalidResponse
      ("failed to parse manifest " ++ d.digest ++ ": the document holds something else"))

def fetchBlob (r : RemoteRepository) (d : Descriptor) : ExceptT RepositoryError m ByteArray := do
  let answer ← request network r.settings .get (r.blobUrl d.digest) "*/*"
    (r.referenceText d.digest)
  let content ← body "blob" answer
  checked d.digest content
  return content

def taggedReferrers (r : RemoteRepository) (digest : String) : ExceptT RepositoryError m Index := do
  let tag := referrersTag digest
  match ← request? network r.settings .get (r.manifestUrl tag) MediaType.imageIndex
      (r.referenceText tag) with
  | none => return .empty
  | some answer => indexIn "referrers index" answer

def referrers (r : RemoteRepository) (digest : String) : ExceptT RepositoryError m Index := do
  let url ← ExceptT.mk (pure (r.referrersUrl digest))
  match ← request? network r.settings .get url MediaType.imageIndex (r.referenceText digest) with
  | some answer => indexIn "referrers response" answer
  | none => r.taggedReferrers network digest

/-- The signatures among what refers to an artifact, whatever else the registry lists. -/
def listSignatures (r : RemoteRepository) (subject : Descriptor) :
    ExceptT RepositoryError m (List Descriptor) := do
  let index ← r.referrers network subject.digest
  return index.manifests.filter (·.artifactType = some MediaType.signature)

def repository (r : RemoteRepository) : Repository m where
  resolve := r.resolve network
  fetchManifest := r.fetchManifest network
  fetchBlob := r.fetchBlob network
  listSignatures := r.listSignatures network

end RemoteRepository

end ArtifactTrust
