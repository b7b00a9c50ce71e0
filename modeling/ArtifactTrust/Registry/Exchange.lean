import ArtifactTrust.Repository.Error
import ArtifactTrust.Text.Blank
import ArtifactTrust.Text.Cut
import ArtifactTrust.Url.Basic

/-!
# Requests and answers

What a client sends to a registry and what it gets back. A `Network m` carries requests with
effects in `m`; it may fail to bring back an answer, or bring back one that is cut off.
-/

namespace ArtifactTrust

set_option autoImplicit false

open Text

/-- What is asked for: the head of an answer, or all of it. -/
inductive Method where
  | get
  | head
deriving DecidableEq, Repr

def Method.name : Method → String
  | get => "GET"
  | head => "HEAD"

structure Request where
  method : Method
  url : Url
  accept : String
  authorization : Option String
deriving DecidableEq, Repr

def Request.maxUrlLength : Nat := 65534

/-- Whether a URL can be asked for. Some characters may be in the host of a URL, but not in what a
request asks for. -/
def Request.admits (url : Url) : Bool :=
  !url.host.toList.any (fun c => c == '"' || c.toNat == 96 || c.toNat == 123 || c.toNat == 125) &&
    url.text.length ≤ maxUrlLength

def Request.userAgent : String := "seal-registry/0.3.0"

structure Answer where
  status : Nat
  headers : List (String × String)
  /-- The content, unless it was cut off. -/
  body : Option ByteArray

/-- A carrier of requests. -/
structure Network (m : Type → Type) where
  /-- The answer to a request, if one comes. -/
  send : Request → m (Option Answer)
  pause : Delay → m Unit

/-- A network on which no answer ever comes. -/
def Network.unreachable {m : Type → Type} [Monad m] : Network m where
  send _ := return none
  pause _ := return ()

namespace Answer

def isVisible (c : Char) : Bool := c == '\t' || (32 ≤ c.toNat && c.toNat ≤ 126)

/-- The first header of a name, whose letters may be of either case. -/
def headerText? (a : Answer) (name : String) : Option String :=
  (a.headers.find? fun h => h.1.toList.map Char.toLower = name.toList).map Prod.snd

/-- The same, unless it holds anything else than visible ASCII. -/
def header? (a : Answer) (name : String) : Option String :=
  (a.headerText? name).filter (·.toList.all isVisible)

def headerValue? (a : Answer) (name : String) : Option String :=
  (a.header? name).map fun value => trimmed (((cutFirst? ';' value).map Prod.fst).getD value)

end Answer

def statusPhrases : List (Nat × String) :=
  [(100, "Continue"), (101, "Switching Protocols"), (102, "Processing"), (200, "OK"),
    (201, "Created"), (202, "Accepted"), (203, "Non Authoritative Information"),
    (204, "No Content"), (205, "Reset Content"), (206, "Partial Content"), (207, "Multi-Status"),
    (208, "Already Reported"), (226, "IM Used"), (300, "Multiple Choices"),
    (301, "Moved Permanently"), (302, "Found"), (303, "See Other"), (304, "Not Modified"),
    (305, "Use Proxy"), (307, "Temporary Redirect"), (308, "Permanent Redirect"),
    (400, "Bad Request"), (401, "Unauthorized"), (402, "Payment Required"), (403, "Forbidden"),
    (404, "Not Found"), (405, "Method Not Allowed"), (406, "Not Acceptable"),
    (407, "Proxy Authentication Required"), (408, "Request Timeout"), (409, "Conflict"),
    (410, "Gone"), (411, "Length Required"), (412, "Precondition Failed"),
    (413, "Payload Too Large"), (414, "URI Too Long"), (415, "Unsupported Media Type"),
    (416, "Range Not Satisfiable"), (417, "Expectation Failed"), (418, "I'm a teapot"),
    (421, "Misdirected Request"), (422, "Unprocessable Entity"), (423, "Locked"),
    (424, "Failed Dependency"), (425, "Too Early"), (426, "Upgrade Required"),
    (428, "Precondition Required"), (429, "Too Many Requests"),
    (431, "Request Header Fields Too Large"), (451, "Unavailable For Legal Reasons"),
    (500, "Internal Server Error"), (501, "Not Implemented"), (502, "Bad Gateway"),
    (503, "Service Unavailable"), (504, "Gateway Timeout"), (505, "HTTP Version Not Supported"),
    (506, "Variant Also Negotiates"), (507, "Insufficient Storage"), (508, "Loop Detected"),
    (510, "Not Extended"), (511, "Network Authentication Required")]

def statusText (status : Nat) : String :=
  toString status ++ " " ++ (statusPhrases.lookup status).getD "<unknown status code>"

end ArtifactTrust
