import ArtifactTrust.Files.Basic
import ArtifactTrust.NameMap
import ArtifactTrust.Reference
import ArtifactTrust.Signature.Key

/-!
# Trust stores

Named collections of public keys. On disk each is a directory of key files; a store that a
policy names has to exist there and to hold a key, and all its key files have to be readable,
so that no key is passed over unnoticed.
-/

namespace ArtifactTrust

set_option autoImplicit false

open Ed25519

/-- Keys by the name of their store and by their id. -/
structure TrustStore where
  stores : NameMap (NameMap PublicKey)

namespace TrustStore

def empty : TrustStore := ⟨∅⟩

inductive Fault where
  | name (store : String)
  | unreadable (path reason : String)
  | noKeys (store : String)
  | malformedKey
  | keyFile (path : String)
deriving DecidableEq, Repr

def noKey : String := "invalid Ed25519 public key: the text holds no public key"

def Fault.message : Fault → String
  | name store => "invalid trust store name \"" ++ store ++ "\""
  | unreadable path reason => "failed to read " ++ path ++ ": " ++ reason
  | noKeys store => "trust store \"" ++ store ++ "\" contains no keys"
  | malformedKey => noKey
  | keyFile path => path ++ ": trust store error: " ++ noKey

def add (t : TrustStore) (store : String) (key : PublicKey) : TrustStore :=
  ⟨t.stores.insert store (((t.stores.get? store).getD ∅).insert (Signature.keyId key.bytes) key)⟩

def has (t : TrustStore) (store : String) : Bool := t.stores.contains store

/-- The keys of the named stores with their ids, store by store, in the order of the ids. -/
def keysIn (t : TrustStore) (names : List String) : List (String × PublicKey) :=
  (names.filterMap t.stores.get?).flatMap NameMap.entries

def isNameCharacter (c : Char) : Bool :=
  Reference.isAlphanumeric c || c == '-' || c == '_' || c == '.'

/-- The names of stores: names of single directories below the current one. -/
def isName (name : String) : Bool :=
  !name.isEmpty && name.toList.all isNameCharacter && name ≠ "." && name ≠ ".."

def keyFileNames (names : List String) : List String :=
  (names.filter fun name => FilePath.extension? name = some "pem").mergeSort (· ≤ ·)

variable {m : Type → Type} [Monad m]

def reading {α : Type} (path : String) (action : ExceptT FileFault m α) : ExceptT Fault m α :=
  ExceptT.mk do
    match ← action.run with
    | .ok a => return .ok a
    | .error fault => return .error (.unreadable path fault.message)

def loadKey (files : Files m) (path : String) : ExceptT Fault m PublicKey := do
  let text ← reading path (files.readText path)
  match Signature.ofKeyFile? text with
  | some key => return key
  | none => throw (.keyFile path)

/-- The keys in the files of a directory, in the order of the file names. -/
def loadKeys (files : Files m) (directory : String) : ExceptT Fault m (List PublicKey) := do
  let names ← reading directory (files.list directory)
  (keyFileNames names).mapM fun name => loadKey files (FilePath.join directory name)

def loadStore (files : Files m) (directory : String) (t : TrustStore) (store : String) :
    ExceptT Fault m TrustStore := do
  if !isName store then throw (.name store)
  let keys ← loadKeys files (FilePath.join directory store)
  if keys.isEmpty then throw (.noKeys store)
  return keys.foldl (·.add store ·) t

def load (files : Files m) (directory : String) (stores : List String) :
    ExceptT Fault m TrustStore :=
  stores.foldlM (loadStore files directory) empty

end TrustStore

end ArtifactTrust
