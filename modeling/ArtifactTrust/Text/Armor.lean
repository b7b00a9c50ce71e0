import ArtifactTrust.Text.Base64

/-!
# Armored binary content

Binary content in a text file stands as Base64 between a line that begins it and a line that
ends it, both with the same label. Lines end in a line feed, a carriage return or both. All
lines of the Base64 but the last are full; before the first line there may be other text that
ends in a line feed, and behind the last at most the end of the line.
-/

namespace ArtifactTrust.Text.Armor

set_option autoImplicit false

def lineWidth : Nat := 64

def ascii (s : String) : List UInt8 := s.toList.map fun c => UInt8.ofNat c.toNat

def opening : List UInt8 := ascii "-----BEGIN "

def closing : List UInt8 := ascii "-----END "

def dashes : List UInt8 := ascii "-----"

/-- The text behind an end of line. -/
def behindLineEnd? : List UInt8 → Option (List UInt8)
  | 13 :: 10 :: rest => some rest
  | 13 :: rest => some rest
  | 10 :: rest => some rest
  | _ => none

def beforeLineEnd? (text : List UInt8) : Option (List UInt8) :=
  match text.reverse with
  | 10 :: 13 :: rest => some rest.reverse
  | 10 :: rest => some rest.reverse
  | 13 :: rest => some rest.reverse
  | _ => none

def withoutEnd? (part text : List UInt8) : Option (List UInt8) :=
  if part.isSuffixOf text then some (text.take (text.length - part.length)) else none

def withoutStart? (part text : List UInt8) : Option (List UInt8) :=
  if part.isPrefixOf text then some (text.drop part.length) else none

/-- The text behind the first opening that follows a line feed. Text before it holds no zero
byte. -/
def behindOpening? : List UInt8 → Option (List UInt8)
  | [] => none
  | b :: rest =>
    if b = 0 then none
    else if b = 10 then (withoutStart? opening rest).or (behindOpening? rest)
    else behindOpening? rest

/-- The Base64 symbols without the ends of the lines between them. -/
def symbols? : Nat → List UInt8 → Option (List UInt8)
  | 0, _ => none
  | limit + 1, text =>
    if text.length ≤ lineWidth then some ((beforeLineEnd? text).getD text)
    else do
      let rest ← behindLineEnd? (text.drop lineWidth)
      return text.take lineWidth ++ (← symbols? limit rest)

/-- The content under a label. -/
def content? (label : List UInt8) (text : List UInt8) : Option (List UInt8) := do
  let text ← (withoutStart? opening text).or (behindOpening? text)
  let text ← behindLineEnd? (← withoutStart? (label ++ dashes) text)
  let text ← withoutEnd? (closing ++ label ++ dashes) ((beforeLineEnd? text).getD text)
  let text ← symbols? (text.length + 1) (← beforeLineEnd? text)
  match Base64.decode text with
  | .ok content => some content
  | .error _ => none

end ArtifactTrust.Text.Armor
