/-!
# Unsigned decimal numbers

Numbers from environment variables and response headers are decimal digits after at most one
`+`. They are refused when they reach a bound that the reader gives.
-/

namespace ArtifactTrust.Text

def isDigit (c : Char) : Bool := '0' ≤ c && c ≤ '9'

def digitsValue (cs : List Char) : Nat := cs.foldl (fun n c => 10 * n + (c.toNat - 48)) 0

/-- A number below `bound`: at least one digit, at most one `+` before them. -/
def unsigned? (bound : Nat) (s : String) : Option Nat :=
  let digits := match s.toList with
    | '+' :: cs => cs
    | cs => cs
  if digits ≠ [] ∧ digits.all isDigit ∧ digitsValue digits < bound then some (digitsValue digits)
  else none

/-- The digits of a number below `10 ^ width`, with leading zeros. -/
def padded (width n : Nat) : String :=
  let digits := (toString n).toList
  String.ofList (List.replicate (width - digits.length) '0' ++ digits)

end ArtifactTrust.Text
