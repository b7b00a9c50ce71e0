import ArtifactTrust.Content.MediaType
import ArtifactTrust.Files.Basic
import ArtifactTrust.Repository.Basic
import ArtifactTrust.Text.Cut

/-!
# Image layouts

An image layout is a directory with a marker file, an index, and the content by its digest:
`oci-layout`, `index.json` and `blobs/<algorithm>/<hex>`. Tags are annotations of the entries
of the index, and signatures are the entries whose manifest names the artifact as its subject.
-/

namespace ArtifactTrust

set_option autoImplicit false

open Json

structure Layout where
  root : String
deriving DecidableEq, Repr

namespace Layout

def supportedVersion : String := "1.0.0"

def tagAnnotation : String := "org.opencontainers.image.ref.name"

inductive Fault where
  | unreadable (path reason : String)
  | malformed (path : String)
  | version (found : String)
  | unreadableBlob (path reason : String)
  | notManifest (digest : String)
  | malformedManifest (digest : String)
deriving DecidableEq, Repr

def Fault.message : Fault → String
  | unreadable path reason => "failed to read " ++ path ++ ": " ++ reason
  | malformed path => "malformed " ++ path ++ ": the document holds something else"
  | version found => "unsupported image layout version " ++ found
  | unreadableBlob path reason => "failed to read blob " ++ path ++ ": " ++ reason
  | notManifest digest => digest ++ " is not a manifest: the document has no media type"
  | malformedManifest digest =>
    "failed to parse manifest " ++ digest ++ ": the document holds something else"

def Fault.error (f : Fault) : RepositoryError := .layout f.message

def markerPath (l : Layout) : String := FilePath.join l.root "oci-layout"

def indexPath (l : Layout) : String := FilePath.join l.root "index.json"

def blobPath (l : Layout) (algorithm : Digest.Algorithm) (encoded : String) : String :=
  FilePath.join (FilePath.join (FilePath.join l.root "blobs") algorithm.name) encoded

def isDigest (name : String) : Bool := Text.holds ':' name

def referenceText (l : Layout) (name : String) : String :=
  l.root ++ (if isDigest name then "@" else ":") ++ name

def version? (document : ByteArray) : Option String := do
  match ← (← Value.parse? document.data.toList).fields? ["imageLayoutVersion"] with
  | [version] => Value.required Value.asString? version
  | _ => none

def mediaType? (document : ByteArray) : Option (Option String) := do
  match ← (← Value.parse? document.data.toList).fields? ["mediaType"] with
  | [mediaType] => Value.optional Value.asString? mediaType
  | _ => none

variable {m : Type → Type} [Monad m] (files : Files m)

/-- Passes on a result. -/
def settled {α : Type} (result : Except RepositoryError α) : ExceptT RepositoryError m α :=
  ExceptT.mk (pure result)

def reading {α : Type} (report : FileFault → RepositoryError) (action : ExceptT FileFault m α) :
    ExceptT RepositoryError m α :=
  ExceptT.mk do
    match ← action.run with
    | .ok a => return .ok a
    | .error fault => return .error (report fault)

def open? (root : String) : ExceptT RepositoryError m Layout := do
  let layout : Layout := ⟨root⟩
  let path := layout.markerPath
  let text ← reading (fun fault => (Fault.unreadable path fault.message).error)
    (files.readText path)
  let some version := version? text.toUTF8 | throw (Fault.malformed path).error
  if version ≠ supportedVersion then throw (Fault.version version).error
  return layout

def index (l : Layout) : ExceptT RepositoryError m Index := do
  let path := l.indexPath
  let document ← reading (fun fault => (Fault.unreadable path fault.message).error)
    (files.read path)
  let some index := (decode? document : Option Index) | throw (Fault.malformed path).error
  return index

def blobError (l : Layout) (digest path : String) : FileFault → RepositoryError
  | .missing => .notFound (l.referenceText digest)
  | fault => (Fault.unreadableBlob path fault.message).error

/-- The content in the file for a digest, which is not compared with it. -/
def readBlob (l : Layout) (digest : String) : ExceptT RepositoryError m ByteArray := do
  let (algorithm, encoded) ← settled (Digest.validate digest)
  let path := l.blobPath algorithm encoded
  reading (l.blobError digest path) (files.read path)

def fetch (l : Layout) (digest : String) : ExceptT RepositoryError m ByteArray := do
  let content ← l.readBlob files digest
  settled (Digest.verifyContent digest content)
  return content

def fetchManifest (l : Layout) (d : Descriptor) : ExceptT RepositoryError m Manifest := do
  let content ← l.fetch files d.digest
  let some manifest := (decode? content : Option Manifest)
    | throw (Fault.malformedManifest d.digest).error
  return manifest

def isNamed (name : String) (entry : Descriptor) : Bool :=
  if isDigest name then entry.digest = name else entry.annotation? tagAnnotation = some name

/-- The descriptor of content that the index does not list. -/
def describe (l : Layout) (digest : String) : ExceptT RepositoryError m Descriptor := do
  let content ← l.fetch files digest
  let some mediaType := mediaType? content | throw (Fault.notManifest digest).error
  return ⟨mediaType.getD MediaType.imageManifest, digest, UInt64.ofNat content.size, none, none⟩

/-- The descriptor of what a tag or a digest names: that of the first entry of the index, whose
annotations are about the entry and are left out. -/
def resolve (l : Layout) (name : String) : ExceptT RepositoryError m Descriptor := do
  let index ← l.index files
  match index.manifests.find? (isNamed name) with
  | some entry => return { entry with annotations := none }
  | none =>
    if isDigest name then l.describe files name
    else throw (.notFound (l.referenceText name))

/-- Whether an entry of the index may be a signature of an artifact. -/
def isCandidate (subject entry : Descriptor) : Bool :=
  entry.mediaType = MediaType.imageManifest && entry.digest ≠ subject.digest &&
    entry.artifactType.all (· = MediaType.signature)

/-- Whether a manifest is that of a signature of an artifact. -/
def signs (subject : Descriptor) (manifest : Manifest) : Bool :=
  manifest.subject.any (·.digest = subject.digest) &&
    manifest.effectiveType = MediaType.signature

def signatureEntry (entry : Descriptor) (manifest : Manifest) : Descriptor :=
  { entry with artifactType := some MediaType.signature, annotations := manifest.annotations }

def signaturesAmong (l : Layout) (subject : Descriptor) :
    List Descriptor → ExceptT RepositoryError m (List Descriptor)
  | [] => return []
  | entry :: rest => do
    if isCandidate subject entry then
      let manifest ← l.fetchManifest files entry
      let others ← signaturesAmong l subject rest
      return if signs subject manifest then signatureEntry entry manifest :: others else others
    else signaturesAmong l subject rest

def listSignatures (l : Layout) (subject : Descriptor) :
    ExceptT RepositoryError m (List Descriptor) := do
  let index ← l.index files
  l.signaturesAmong files subject index.manifests

def repository (l : Layout) : Repository m where
  resolve := l.resolve files
  fetchManifest := l.fetchManifest files
  fetchBlob d := l.fetch files d.digest
  listSignatures := l.listSignatures files

end Layout

end ArtifactTrust
