import ArtifactTrust.Text.Composition.Class
import ArtifactTrust.Text.Composition.Pairs

/-!
# Composing characters with their marks

The same text can be written with composed characters and with marks behind plain ones.
`composed` is the one way of writing it that takes everything apart, puts the marks behind a
character in the order of their classes, and composes what can be composed. Characters that
stand for others, and are not made of two, are left alone.
-/

namespace ArtifactTrust.Text.Composition

set_option autoImplicit false

/-! ## The syllables of Hangul

A syllable is made of a leading consonant, a vowel and perhaps a trailing consonant, and the
syllables follow each other in the order of these parts. -/

def firstLeading : Nat := 0x1100

def firstVowel : Nat := 0x1161

def beforeTrailing : Nat := 0x11a7

def firstSyllable : Nat := 0xac00

def leadingCount : Nat := 19

def vowelCount : Nat := 21

/-- The number of ways to end a syllable: with one of the trailing consonants or without. -/
def endingCount : Nat := 28

def syllableCount : Nat := leadingCount * vowelCount * endingCount

def jamos? (c : Char) : Option (List Char) :=
  let n := c.toNat - firstSyllable
  if firstSyllable ≤ c.toNat && n < syllableCount then
    let start := [Char.ofNat (firstLeading + n / endingCount / vowelCount),
      Char.ofNat (firstVowel + n / endingCount % vowelCount)]
    some (if n % endingCount = 0 then start
      else start ++ [Char.ofNat (beforeTrailing + n % endingCount)])
  else none

/-- The syllable that a consonant makes with a vowel, or a syllable with a trailing consonant. -/
def syllable? (first second : Char) : Option Char :=
  let leading := first.toNat - firstLeading
  let vowel := second.toNat - firstVowel
  let n := first.toNat - firstSyllable
  if firstLeading ≤ first.toNat && leading < leadingCount &&
      firstVowel ≤ second.toNat && vowel < vowelCount then
    some (Char.ofNat (firstSyllable + (leading * vowelCount + vowel) * endingCount))
  else if firstSyllable ≤ first.toNat && n < syllableCount && n % endingCount = 0 &&
      beforeTrailing < second.toNat && second.toNat - beforeTrailing < endingCount then
    some (Char.ofNat (first.toNat + (second.toNat - beforeTrailing)))
  else none

/-! ## Taking apart and putting together -/

def maxSteps : Nat := 3

/-- A character taken apart, in at most `steps` steps. -/
def apart : (steps : Nat) → Char → List Char
  | 0, c => [c]
  | steps + 1, c =>
    match parts? c with
    | some (first, second) => apart steps first ++ [second]
    | none => [c]

def decomposed (c : Char) : List Char :=
  if c.toNat < 0xc0 then [c] else (jamos? c).getD (apart maxSteps c)

/-- Puts a character before others, and behind the marks among them of a lower class. -/
def place (c : Char) : List Char → List Char
  | [] => [c]
  | d :: rest =>
    if 0 < combiningClass d ∧ combiningClass d < combiningClass c then d :: place c rest
    else c :: d :: rest

def ordered (cs : List Char) : List Char := cs.foldr place []

def whole? (first second : Char) : Option Char :=
  (syllable? first second).or (pair? first second)

/-- Composes a character with what follows. The marks `held`, last first, are behind it and do
not compose with it; a mark of the same class as the last of them is out of its reach. -/
def composeFrom (first : Char) (held : List Char) : List Char → List Char
  | [] => first :: held.reverse
  | c :: rest =>
    match if held.all (combiningClass · < combiningClass c) then whole? first c else none with
    | some whole => composeFrom whole held rest
    | none =>
      if combiningClass c = 0 then first :: held.reverse ++ composeFrom c [] rest
      else composeFrom first (c :: held) rest

def compose : List Char → List Char
  | [] => []
  | c :: rest => if combiningClass c = 0 then composeFrom c [] rest else c :: compose rest

def composed (cs : List Char) : List Char := compose (ordered (cs.flatMap decomposed))

end ArtifactTrust.Text.Composition
