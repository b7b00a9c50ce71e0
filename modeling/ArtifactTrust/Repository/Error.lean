import ArtifactTrust.Text.Decimal

/-!
# Why a repository could not answer

`RepositoryError` has one constructor for each cause, and `message` is the only place where a
cause is put into words. `transient` separates the causes that may go away by themselves.
-/

namespace ArtifactTrust

set_option autoImplicit false

structure Delay where
  millis : Nat
deriving DecidableEq, Repr

def Delay.ofSeconds (seconds : Nat) : Delay := ⟨1000 * seconds⟩

/-- Seconds from one second on, with the digits of the fraction that count; below that whole
milliseconds, and no time at all in nanoseconds. -/
def Delay.text (d : Delay) : String :=
  let seconds := d.millis / 1000
  let rest := d.millis % 1000
  if seconds = 0 then
    if rest = 0 then "0ns" else toString rest ++ "ms"
  else if rest = 0 then toString seconds ++ "s"
  else
    let places := (Text.padded 3 rest).toList.reverse.dropWhile (· == '0')
    toString seconds ++ "." ++ String.ofList places.reverse ++ "s"

inductive RepositoryError where
  /-- No manifest, blob or tag of that name. -/
  | notFound (reference : String)
  /-- The credentials were refused, or none were given. -/
  | unauthorized (detail : String)
  /-- Too many requests; the registry may say how long to wait. -/
  | rateLimited (retryAfter : Option Delay)
  /-- The content is not what its digest promises. -/
  | digestMismatch (expected actual : String)
  /-- A reference or a digest is not well formed. -/
  | invalidReference (reference reason : String)
  /-- No complete answer arrived. -/
  | network (detail : String)
  /-- The registry's answer makes no sense. -/
  | invalidResponse (detail : String)
  /-- The image layout is missing or malformed. -/
  | layout (detail : String)
  /-- The client is not configured to do this. -/
  | config (detail : String)
deriving DecidableEq, Repr

namespace RepositoryError

def message : RepositoryError → String
  | notFound reference => reference ++ ": not found"
  | unauthorized detail => "unauthorized: " ++ detail
  | rateLimited none => "rate limited: retry after None"
  | rateLimited (some d) => "rate limited: retry after Some(" ++ d.text ++ ")"
  | digestMismatch expected actual => "digest mismatch: expected " ++ expected ++ ", got " ++ actual
  | invalidReference reference reason => "invalid reference: " ++ reference ++ " - " ++ reason
  | network detail => "network error: " ++ detail
  | invalidResponse detail => "invalid response: " ++ detail
  | layout detail => "invalid OCI layout: " ++ detail
  | config detail => "configuration error: " ++ detail

/-- The causes that may go away when the request is repeated. -/
def transient : RepositoryError → Bool
  | rateLimited _ => true
  | network _ => true
  | _ => false

end RepositoryError

end ArtifactTrust
