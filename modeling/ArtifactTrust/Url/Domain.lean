import ArtifactTrust.Text.Composition
import ArtifactTrust.Url.Domain.Direction
import ArtifactTrust.Url.Domain.Folding
import ArtifactTrust.Url.Domain.Joining
import ArtifactTrust.Url.Percent
import ArtifactTrust.Url.Punycode

/-!
# Domains

A domain in the one form in which it is written in ASCII. Its characters are folded and composed
with their marks, and its labels with characters beyond ASCII are written in Punycode. A label
that is given in Punycode has to be the written form of a label. Every label has to consist of
characters that may be in a domain and stand next to each other.
-/

namespace ArtifactTrust.Url

set_option autoImplicit false

open Text

def isDenied (c : Char) : Bool :=
  c.toNat ≤ 32 || c.toNat == 127 || "%#/:<>?@[\\]^|".toList.contains c

def isKept (c : Char) : Bool :=
  if c.toNat < 128 then !isDenied c && c == c.toLower
  else Folding.fold c = [c] && (c == Joining.joiner || c == Joining.nonJoiner ||
    !Folding.isExcluded c)

def maxInternational : Nat := 1000

def isAscii (label : List Char) : Bool := label.all (·.toNat < 128)

def isLabel (text : List Char) : Bool :=
  text.all isKept && !text.head?.any Glyph.isMark && Joining.allows text &&
    (isAscii text || text.length ≤ maxInternational)

def punycodeMark : List Char := ['x', 'n', '-', '-']

def maxEncoded : Nat := 2000

/-- What a label says: what it encodes, or else itself. Nothing is encoded that needs not be, or
twice, or not composed. -/
def labelText? (label : List Char) : Option (List Char) :=
  if punycodeMark.isPrefixOf label then
    let encoded := label.drop punycodeMark.length
    if isAscii encoded && encoded.length ≤ maxEncoded then
      (Punycode.decode? encoded).filter fun text =>
        !isAscii text && !punycodeMark.isPrefixOf text && Composition.composed text = text
    else none
  else some label

def asciiLabel (label : List Char) : List Char :=
  if isAscii label then label else punycodeMark ++ Punycode.encode label

def domainLabels (domain : List Char) : List (List Char) :=
  pieces '.' (Composition.composed (domain.flatMap Folding.fold))

/-- A domain in ASCII, if it can be one. -/
def asciiDomain? (domain : List Char) : Option (List Char) := do
  let labels := domainLabels domain
  let texts ← labels.mapM labelText?
  if texts.all isLabel && Direction.agree texts then some (joined '.' (labels.map asciiLabel))
  else none

end ArtifactTrust.Url
