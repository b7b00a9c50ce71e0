import ArtifactTrust.Registry.Exchange
import ArtifactTrust.Registry.Settings
import ArtifactTrust.Text.Lossy

/-!
# Asking a registry

The client puts its credentials on a request, follows redirects, tells from the status of the
answer what went wrong, and repeats an exchange that may succeed later. A user that a URL names
is taken out of the URL and goes before the credentials of the settings. Statuses are looked at
nowhere else.
-/

namespace ArtifactTrust.Registry

set_option autoImplicit false

def maxRedirects : Nat := 10

def maxPause : Delay := .ofSeconds 30

def isHeaderValue (s : String) : Bool :=
  s.toList.all fun c => c == '\t' || (32 ≤ c.toNat && c.toNat ≠ 127)

def sendingError (url : Url) : RepositoryError :=
  .network ("error sending request for url (" ++ url.text ++ ")")

def buildingError : RepositoryError := .network "builder error"

/-- A URL that nothing can be sent to. -/
def admissionError (url : String) : RepositoryError :=
  .network ("builder error for url (" ++ url ++ ")")

def redirectError (url : Url) : RepositoryError :=
  .network ("error following redirect for url (" ++ url.text ++ ")")

/-- Where an answer sends a request on to: a URL, or one of another scheme, of which there is
only the text. -/
def redirect? (url : Url) (a : Answer) : Option (Except String Url) :=
  if a.status ∈ [301, 302, 303, 307, 308] then
    (a.headerText? "location").bind fun location =>
      match url.follow location with
      | .ok next => if Request.admits next then some (.ok next) else none
      | .error (.foreign text) => some (.error text)
      | .error _ => none
  else none

variable {m : Type → Type} [Monad m] (network : Network m)

/-- Sends a request, and sends it on as often as `limit` allows. Credentials go no further than
the server that they are meant for. -/
def send : Nat → Request → ExceptT RepositoryError m Answer
  | limit, request => do
    match ← ExceptT.lift (network.send request) with
    | none => throw (sendingError request.url)
    | some answer =>
      match redirect? request.url answer with
      | none => return answer
      | some next =>
        match limit with
        | 0 => throw (redirectError request.url)
        | limit + 1 =>
          match next with
          | .error foreign => throw (admissionError foreign)
          | .ok next =>
            let authorization :=
              if request.url.sameServer next then request.authorization else none
            send limit { request with url := next, authorization := authorization }

/-- What an answer means, for a request for `what`. -/
def judge (what : String) (a : Answer) : Except RepositoryError Answer :=
  if 200 ≤ a.status ∧ a.status < 300 then .ok a
  else if a.status = 401 ∨ a.status = 403 then
    .error (.unauthorized ("HTTP " ++ toString a.status ++ " for " ++ what))
  else if a.status = 404 then .error (.notFound what)
  else if a.status = 429 then
    .error (.rateLimited
      (((a.header? "retry-after").bind (Text.unsigned? UInt64.size)).map Delay.ofSeconds))
  else
    let detail := (a.body.map Text.lossy).getD (statusText a.status)
    .error (.network ("HTTP " ++ toString a.status ++ ": " ++ detail))

/-- What stands on a request for a URL, and the URL without what is said there: the user of the
URL, or else what the settings say. -/
def addressed (settings : RegistrySettings) (url : Url) : Option String × Url :=
  match url.user? with
  | some (username, password) =>
    (some (RegistrySettings.basic username (password.getD "")), url.withoutUser)
  | none => (settings.authorization, url)

def attempt (settings : RegistrySettings) (method : Method) (url accept what : String) :
    ExceptT RepositoryError m Answer := do
  match Url.parse url with
  | .error _ => throw buildingError
  | .ok url =>
    if settings.authorization.all isHeaderValue then
      let (authorization, url) := addressed settings url
      if Request.admits url then
        let answer ← send network maxRedirects ⟨method, url, accept, authorization⟩
        ExceptT.mk (pure (judge what answer))
      else throw (admissionError url.text)
    else throw buildingError

/-- The wait before a repetition: what the registry asks for, or else twice as long each time. -/
def backoff (retries : Nat) : RepositoryError → Delay
  | .rateLimited (some delay) => if delay.millis < maxPause.millis then delay else maxPause
  | _ => if retries < 5 then .ofSeconds (Nat.pow 2 retries) else maxPause

/-- Makes an attempt, and repeats it as often as `limit` allows while it may succeed later. -/
def retrying {α : Type} (pause : Delay → m Unit) (action : ExceptT RepositoryError m α) :
    (retries limit : Nat) → ExceptT RepositoryError m α
  | retries, limit => do
    match ← ExceptT.lift action.run with
    | .ok a => return a
    | .error e =>
      if e.transient then
        match limit with
        | 0 => throw e
        | limit + 1 =>
          ExceptT.lift (pause (backoff (retries + 1) e))
          retrying pause action (retries + 1) limit
      else throw e

def request (settings : RegistrySettings) (method : Method) (url accept what : String) :
    ExceptT RepositoryError m Answer :=
  retrying network.pause (attempt network settings method url accept what) 0
    settings.maxRetries.toNat

def request? (settings : RegistrySettings) (method : Method) (url accept what : String) :
    ExceptT RepositoryError m (Option Answer) := do
  match ← ExceptT.lift (request network settings method url accept what).run with
  | .ok answer => return some answer
  | .error (.notFound _) => return none
  | .error e => throw e

end ArtifactTrust.Registry
