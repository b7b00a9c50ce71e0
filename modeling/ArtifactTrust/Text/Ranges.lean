/-!
# Ranges of code points

A property of characters is kept as the ascending ranges of the code points that have it.
-/

namespace ArtifactTrust.Text

set_option autoImplicit false

/-- Whether one of the ranges holds a code point; the ranges ascend. -/
def within (n : Nat) : List (Nat × Nat) → Bool
  | [] => false
  | (low, high) :: rest => if n ≤ high then low ≤ n else within n rest

end ArtifactTrust.Text
