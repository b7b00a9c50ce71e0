import ArtifactTrust.Text.Glyph

/-!
# Quoted text

In messages a text from a document stands between double quotes. The quote, the backslash and
the common controls are escaped by a letter, and every other character that does not show up
as itself by its code point in braces.
-/

namespace ArtifactTrust.Text

set_option autoImplicit false

def hexNumber (n : Nat) : String := String.ofList (Nat.toDigits 16 n)

/-- What stands for one character between the quotes. -/
def quotedChar (c : Char) : String :=
  if c = '"' then "\\\""
  else if c = '\\' then "\\\\"
  else if c = '\n' then "\\n"
  else if c = '\r' then "\\r"
  else if c = '\t' then "\\t"
  else if c.toNat = 0 then "\\0"
  else if Glyph.isExtending c || Glyph.lacksGlyph c then
    "\\u\x7b" ++ hexNumber c.toNat ++ "\x7d"
  else c.toString

def quoted (s : String) : String := "\"" ++ String.join (s.toList.map quotedChar) ++ "\""

end ArtifactTrust.Text
