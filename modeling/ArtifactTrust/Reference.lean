import ArtifactTrust.Digest
import ArtifactTrust.Text.Blank
import ArtifactTrust.Text.Decimal

/-!
# Artifact references

An artifact is named by a locator and by a tag or a digest within it: `<locator>:<tag>`,
`<locator>@<digest>`, or `<locator>:<tag>@<digest>`, where the digest decides and the tag is
dropped. For a registry the locator is `<host>/<repository>` and its grammar is checked; for an
image layout it is a path, taken as it is.
-/

namespace ArtifactTrust

set_option autoImplicit false

open Text

inductive Source where
  | registry
  /-- An image layout directory. -/
  | layout
deriving DecidableEq, Repr

inductive Selector where
  /-- A name that may be moved to other content. -/
  | tag (name : String)
  /-- The content itself. -/
  | digest (name : String)
deriving DecidableEq, Repr

def Selector.text : Selector → String
  | tag name => name
  | digest name => name

/-- A locator together with a tag or a digest. -/
structure Reference where
  /-- A registry host and repository, or the path of an image layout. -/
  locator : String
  selector : Selector
deriving DecidableEq, Repr

inductive ReferenceFault where
  | empty
  | noSelector
  | noLocator
  | emptyTag
  | longTag
  | tagCharacters
  | noRepository
  | host (name : String)
  | emptyComponent
  | componentEnds
  | componentCharacters
  | componentSeparators
deriving DecidableEq, Repr

def maxTagSize : Nat := 128

def ReferenceFault.message : ReferenceFault → String
  | empty => "empty reference"
  | noSelector => "reference is missing digest or tag"
  | noLocator => "missing repository or path"
  | emptyTag => "tag cannot be empty"
  | longTag => "tag cannot exceed " ++ toString maxTagSize ++ " characters"
  | tagCharacters =>
    "tag may only contain letters, digits, '_', '.' and '-' and cannot start with '.' or '-'"
  | noRepository => "expected <registry>/<repository>"
  | host name => "invalid registry host '" ++ name ++ "'"
  | emptyComponent => "repository path components cannot be empty"
  | componentEnds => "repository components must start and end with a lowercase letter or digit"
  | componentCharacters =>
    "repository may only contain lowercase letters, digits, '.', '_' and '-'"
  | componentSeparators => "repository contains an invalid separator sequence"

namespace Reference

def isLower (c : Char) : Bool := 'a' ≤ c && c ≤ 'z'

def isAlphanumeric (c : Char) : Bool := isLower c || ('A' ≤ c && c ≤ 'Z') || isDigit c

def isLowerAlphanumeric (c : Char) : Bool := isLower c || isDigit c

def isTagStart (c : Char) : Bool := isAlphanumeric c || c == '_'

def isTagRest (c : Char) : Bool := isTagStart c || c == '.' || c == '-'

/-- The characters of a registry host with its port; brackets hold an address. -/
def isHostCharacter (c : Char) : Bool :=
  isAlphanumeric c || c == '.' || c == '-' || c == ':' || c == '[' || c == ']'

def byteSize (cs : List Char) : Nat := cs.foldr (fun c n => c.utf8Size + n) 0

/-- The rules for a tag: one to 128 bytes, a letter, digit or underscore first, then also
periods and dashes. -/
def checkTag (tag : List Char) : Except ReferenceFault Unit :=
  match tag with
  | [] => .error .emptyTag
  | c :: cs =>
    if maxTagSize < byteSize tag then .error .longTag
    else if isTagStart c && cs.all isTagRest then .ok ()
    else .error .tagCharacters

def contains (part : List Char) : List Char → Bool
  | [] => part.isEmpty
  | c :: cs => part.isPrefixOf (c :: cs) || contains part cs

/-- The rules for one component of a repository path: lowercase letters and digits, with
periods, underscores and dashes between them, but neither two periods nor three underscores
together. -/
def checkComponent (component : List Char) : Except ReferenceFault Unit :=
  if component.isEmpty then .error .emptyComponent
  else if !(component.head?.any isLowerAlphanumeric && component.getLast?.any isLowerAlphanumeric)
  then .error .componentEnds
  else if !component.all fun c => isLowerAlphanumeric c || c == '.' || c == '_' || c == '-'
  then .error .componentCharacters
  else if contains ['.', '.'] component || contains ['_', '_', '_'] component
  then .error .componentSeparators
  else .ok ()

def checkComponents : List (List Char) → Except ReferenceFault Unit
  | [] => .ok ()
  | c :: cs => do checkComponent c; checkComponents cs

def checkRegistryLocator (locator : List Char) : Except ReferenceFault Unit :=
  match cutFirst '/' locator with
  | none => .error .noRepository
  | some (host, repository) =>
    if host.isEmpty || !host.all isHostCharacter then .error (.host (String.ofList host))
    else checkComponents (pieces '/' repository)

/-- Cuts a tag off the end of a name. A colon starts a tag only behind the last path
separator; one before it belongs to a port or to a drive. -/
def cutTag (name : List Char) : Option (List Char × List Char) :=
  match cutLast ':' name with
  | none => none
  | some (before, after) =>
    if after.contains '/' || after.contains '\\' then none else some (before, after)

def splitTag (name : List Char) : Except ReferenceFault (Option (List Char × List Char)) :=
  match cutTag name with
  | none => .ok none
  | some (before, tag) => do checkTag tag; return some (before, tag)

/-- Reports a fault as found in `reference`. -/
def blame {α : Type} (reference : List Char) : Except ReferenceFault α → Except RepositoryError α
  | .ok a => .ok a
  | .error fault => .error (.invalidReference (String.ofList reference) fault.message)

def split (cs : List Char) : Except RepositoryError (List Char × Selector) :=
  match cutLast '@' cs with
  | some (name, digest) => do
    let _ ← Digest.validate (String.ofList digest)
    match ← blame cs (splitTag name) with
    | some (locator, _) => return (locator, .digest (String.ofList digest))
    | none => return (name, .digest (String.ofList digest))
  | none => do
    match ← blame cs (splitTag cs) with
    | some (locator, tag) => return (locator, .tag (String.ofList tag))
    | none => blame cs (.error .noSelector)

/-- Reads a reference. A fault is reported with the reference as it stands between its outer
blanks, a fault in the digest with the digest alone. -/
def parse (source : Source) (text : String) : Except RepositoryError Reference := do
  let cs := trim text.toList
  if cs.isEmpty then blame cs (.error .empty)
  let (locator, selector) ← split cs
  if locator.isEmpty then blame cs (.error .noLocator)
  if source = .registry then blame cs (checkRegistryLocator locator)
  return ⟨String.ofList locator, selector⟩

def tag? (r : Reference) : Option String :=
  match r.selector with
  | .tag name => some name
  | .digest _ => none

def digest? (r : Reference) : Option String :=
  match r.selector with
  | .tag _ => none
  | .digest digest => some digest

def isDigest (r : Reference) : Bool := r.digest?.isSome

/-- The same locator with a digest, which is not checked. -/
def withDigest (r : Reference) (digest : String) : Reference := ⟨r.locator, .digest digest⟩

def registry (r : Reference) : String :=
  match cutFirst? '/' r.locator with
  | some (host, _) => host
  | none => r.locator

def repository (r : Reference) : String :=
  match cutFirst? '/' r.locator with
  | some (_, repository) => repository
  | none => ""

/-- A tag is written behind a colon, a digest behind an at sign. -/
def text (r : Reference) : String :=
  match r.selector with
  | .tag name => r.locator ++ ":" ++ name
  | .digest digest => r.locator ++ "@" ++ digest

end Reference

end ArtifactTrust
