import ArtifactTrust.Url.Host

/-!
# URLs

URLs of the two schemes that registries use, in their one written form: host and port
normalized, `.` and `..` resolved in the path, and percent encoding where it is needed.
`parse` takes whatever a browser would take, and `text` writes the form.
-/

namespace ArtifactTrust

set_option autoImplicit false

open Text

/-- A URL in its written form. -/
structure Url where
  secure : Bool
  username : String
  password : String
  host : String
  /-- The port, unless it is that of the scheme. -/
  port : Option Nat
  segments : List String
  query : Option String
  fragment : Option String
deriving DecidableEq, Repr

namespace Url

def defaultPort (secure : Bool) : Nat := if secure then 443 else 80

def schemeText (secure : Bool) : String := if secure then "https://" else "http://"

def authority (u : Url) : String :=
  u.host ++ match u.port with
    | some port => ":" ++ toString port
    | none => ""

def path (u : Url) : String := String.join (u.segments.map ("/" ++ ·))

def userText (u : Url) : String :=
  if u.username.isEmpty && u.password.isEmpty then ""
  else u.username ++ (if u.password.isEmpty then "" else ":" ++ u.password) ++ "@"

def location (u : Url) : String :=
  u.authority ++ u.path ++
    match u.query with
    | some query => "?" ++ query
    | none => ""

def target (u : Url) : String := schemeText u.secure ++ u.location

def text (u : Url) : String :=
  schemeText u.secure ++ u.userText ++ u.location ++
    match u.fragment with
    | some fragment => "#" ++ fragment
    | none => ""

def decoded? (part : String) : Option String :=
  String.fromUTF8? ⟨(percentDecode part.toList).toArray⟩

/-- The name and the password of the user, where the name is a text. A password that is no text
does not count. -/
def user? (u : Url) : Option (String × Option String) := do
  let username ← decoded? u.username
  let password := if u.password.isEmpty then none else decoded? u.password
  if username.isEmpty && password.isNone then none else some (username, password)

def withoutUser (u : Url) : Url := { u with username := "", password := "" }

/-- Characters that are dropped at both ends of a URL. -/
def isEdge (c : Char) : Bool := c.toNat ≤ 32

/-- Characters that are dropped everywhere. -/
def isBreak (c : Char) : Bool := c == '\t' || c == '\n' || c == '\r'

def cleaned (text : String) : List Char :=
  let cs := text.toList.dropWhile isEdge
  ((cs.reverse.dropWhile isEdge).reverse).filter (!isBreak ·)

def isSlash (c : Char) : Bool := c == '/' || c == '\\'

def endsAuthority (c : Char) : Bool := isSlash c || c == '?' || c == '#'

/-- The host of an authority and what is behind it: the part before the first colon outside
brackets. -/
def cutHost (inBrackets : Bool) : List Char → List Char × List Char
  | [] => ([], [])
  | c :: rest =>
    if c = ':' ∧ ¬ inBrackets then ([], c :: rest)
    else
      let inside := if c = '[' then true else if c = ']' then false else inBrackets
      let (before, after) := cutHost inside rest
      (c :: before, after)

def portOf (secure : Bool) : List Char → Except Fault (Option Nat)
  | [] => .ok none
  | _ :: digits =>
    if !digits.all isDigit then .error .port
    else if digits.isEmpty then .ok none
    else
      let n := digitsValue digits
      if 65536 ≤ n then .error .port
      else .ok (if n = defaultPort secure then none else some n)

def segment (cs : List Char) : String := String.ofList (percentEncode pathEscapes cs)

/-- Whether a part of a path is a period, which may be percent encoded. -/
def isHere (cs : List Char) : Bool := String.ofList (cs.map Char.toLower) ∈ [".", "%2e"]

def isParent (cs : List Char) : Bool :=
  String.ofList (cs.map Char.toLower) ∈ ["..", ".%2e", "%2e.", "%2e%2e"]

/-- The parts of a path with `.` and `..` resolved. The parts so far are in reverse. -/
def resolve (done : List String) : List (List Char) → List String
  | [] => done.reverse
  | [last] =>
    if isParent last then ("" :: done.tail).reverse
    else if isHere last then ("" :: done).reverse
    else (segment last :: done).reverse
  | part :: rest =>
    if isParent part then resolve done.tail rest
    else if isHere part then resolve done rest
    else resolve (segment part :: done) rest

def pathParts (cs : List Char) : List (List Char) :=
  pieces '/' (cs.map fun c => if c = '\\' then '/' else c)

def cutTail (cs : List Char) : List Char × Option (List Char) × Option (List Char) :=
  let (rest, fragment) :=
    match cutFirst '#' cs with
    | some (rest, fragment) => (rest, some fragment)
    | none => (cs, none)
  match cutFirst '?' rest with
  | some (path, query) => (path, some query, fragment)
  | none => (rest, none, fragment)

def queryText (cs : List Char) : String := String.ofList (percentEncode queryEscapes cs)

def fragmentText (cs : List Char) : String := String.ofList (percentEncode fragmentEscapes cs)

def userPart (cs : List Char) : String := String.ofList (percentEncode userEscapes cs)

/-- A URL from what is behind the slashes of its scheme. The name of a user, and the password
behind a colon, may stand before the host. -/
def ofAuthority (secure : Bool) (cs : List Char) : Except Fault Url := do
  let authority := cs.takeWhile (!endsAuthority ·)
  let rest := cs.drop authority.length
  let (user, server) := (cutLast '@' authority).getD ([], authority)
  let (username, password) := (cutFirst ':' user).getD (user, [])
  let (hostPart, portPart) := cutHost false server
  let host ← normalHost hostPart
  let port ← portOf secure portPart
  let (path, query, fragment) := cutTail rest
  return ⟨secure, userPart username, userPart password, host, port,
    resolve [] (pathParts (path.drop 1)), query.map queryText, fragment.map fragmentText⟩

def scheme? (cs : List Char) : Option (Bool × List Char) := do
  let (name, rest) ← cutFirst ':' cs
  let name := String.ofList (name.map Char.toLower)
  if name = "http" then some (false, rest) else if name = "https" then some (true, rest) else none

def parse (text : String) : Except Fault Url :=
  match scheme? (cleaned text) with
  | some (secure, rest) => ofAuthority secure (rest.dropWhile isSlash)
  | none => .error .scheme

def isSchemeCharacter (c : Char) : Bool := c.isAlphanum || c == '+' || c == '-' || c == '.'

/-- The name of any scheme and what is behind its colon. -/
def schemeName? (cs : List Char) : Option (String × List Char) := do
  let (name, rest) ← cutFirst ':' cs
  if name.head?.any Char.isAlpha && name.all isSchemeCharacter then
    some (String.ofList (name.map Char.toLower), rest)
  else none

/-- Where a reference without a scheme leads. -/
def relative (base : Url) (cs : List Char) : Except Fault Url :=
  let (path, query, fragment) := cutTail cs
  let there (segments : List String) (query : Option (List Char)) : Except Fault Url :=
    .ok { base with
      segments := segments
      query := query.map queryText
      fragment := fragment.map fragmentText }
  match path with
  | [] =>
    if query.isSome then there base.segments query
    else .ok { base with fragment := fragment.map fragmentText }
  | c :: rest =>
    if isSlash c then
      match rest with
      | d :: _ =>
        if isSlash d then ofAuthority base.secure (cs.dropWhile isSlash)
        else there (resolve [] (pathParts rest)) query
      | [] => there (resolve [] (pathParts rest)) query
    else there (resolve base.segments.reverse.tail (pathParts path)) query

/-- Where a reference leads. The scheme of the base may be said again, and it takes two slashes
behind it to name a server. -/
def follow (base : Url) (reference : String) : Except Fault Url :=
  let cs := cleaned reference
  match scheme? cs with
  | some (secure, rest) =>
    if secure = base.secure ∧ (rest.takeWhile isSlash).length < 2 then base.relative rest
    else ofAuthority secure (rest.dropWhile isSlash)
  | none =>
    match schemeName? cs with
    | some (name, rest) => .error (.foreign (name ++ ":" ++ String.ofList rest))
    | none => base.relative cs

def withParameter (u : Url) (name value : String) : Url :=
  let encode (s : String) : String := String.ofList (percentEncode formEscapes s.toList)
  let pair := encode name ++ "=" ++ encode value
  { u with query := some (match u.query with
    | some query => if query.isEmpty then pair else query ++ "&" ++ pair
    | none => pair) }

def sameServer (u v : Url) : Bool :=
  u.host = v.host &&
    u.port.getD (defaultPort u.secure) = v.port.getD (defaultPort v.secure)

end Url

end ArtifactTrust
