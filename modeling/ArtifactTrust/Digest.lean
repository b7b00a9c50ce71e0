import ArtifactTrust.Hash.Sha256
import ArtifactTrust.Hash.Sha512
import ArtifactTrust.Repository.Error
import ArtifactTrust.Text.Cut
import ArtifactTrust.Text.Hex

/-!
# Content digests

A digest is written `<algorithm>:<hex>`. Content is checked against a digest by hashing it
under the digest's own algorithm and comparing the texts. Digests travel as plain strings,
because most of them come from documents nobody has checked; `Digest.parse` is the check.
-/

namespace ArtifactTrust.Digest

set_option autoImplicit false

inductive Algorithm where
  | sha256
  | sha512
deriving DecidableEq, Repr

namespace Algorithm

def name : Algorithm → String
  | sha256 => "sha256"
  | sha512 => "sha512"

def hexLength : Algorithm → Nat
  | sha256 => 64
  | sha512 => 128

def blockHash : Algorithm → Hash.BlockHash
  | sha256 => Hash.sha256
  | sha512 => Hash.sha512

def ofName? (s : String) : Option Algorithm :=
  if s = "sha256" then some sha256 else if s = "sha512" then some sha512 else none

end Algorithm

inductive Fault where
  | noSeparator
  | unsupported (algorithm : String)
  | notHex (algorithm : Algorithm)
deriving DecidableEq, Repr

def Fault.message : Fault → String
  | noSeparator => "digest must be <algorithm>:<hex>"
  | unsupported algorithm => "unsupported digest algorithm '" ++ algorithm ++ "'"
  | notHex algorithm =>
    algorithm.name ++ " digest must be " ++ toString algorithm.hexLength ++
      " lowercase hex characters"

def parse (digest : String) : Except Fault (Algorithm × String) :=
  match Text.cutFirst? ':' digest with
  | none => .error .noSeparator
  | some (name, encoded) =>
    match Algorithm.ofName? name with
    | none => .error (.unsupported name)
    | some algorithm =>
      if encoded.toList.length = algorithm.hexLength ∧ encoded.toList.all Text.isLowerHex then
        .ok (algorithm, encoded)
      else .error (.notHex algorithm)

/-- A digest with a supported algorithm and the right number of lowercase digits. -/
def WellFormed (digest : String) : Prop := ∃ parts, parse digest = .ok parts

/-- `parse`, with the fault reported as an invalid reference. -/
def validate (digest : String) : Except RepositoryError (Algorithm × String) :=
  match parse digest with
  | .ok parts => .ok parts
  | .error fault => .error (.invalidReference digest fault.message)

def ofContent (algorithm : Algorithm) (content : ByteArray) : String :=
  algorithm.name ++ ":" ++ Text.hex (algorithm.blockHash.hash content.data.toList)

def ofPortions (portions : List ByteArray) : String :=
  "sha256:" ++ Text.hex (Hash.sha256.hashPortions (portions.map (·.data.toList)))

def verifyContent (expected : String) (content : ByteArray) : Except RepositoryError Unit := do
  let (algorithm, _) ← validate expected
  let actual := ofContent algorithm content
  if actual = expected then return () else throw (.digestMismatch expected actual)

end ArtifactTrust.Digest
