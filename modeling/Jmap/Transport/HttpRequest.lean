import Jmap.Error.Http
import Jmap.Transport.Credentials
import Jmap.Url

/-!
Requests of HTTP, and the agent that makes them. A request that cannot be written
is refused before anything is sent.
-/

namespace Jmap

open Utf8 (Bytes)

inductive HttpMethod where
  | get
  | post
deriving DecidableEq, Repr

def HttpMethod.name : HttpMethod → String
  | .get => "GET"
  | .post => "POST"

structure HttpRequest where
  method : HttpMethod
  url : Url
  headers : List (String × String)
  body : Bytes := []
deriving DecidableEq

namespace HttpRequest

def target (request : HttpRequest) : String :=
  request.url.path.render ++ (request.url.query.map ("?" ++ ·)).getD ""

def header? (request : HttpRequest) (name : String) : Option String :=
  request.headers.lookup name

/-- Controls but the tab would end a header or break it. -/
def isHeaderChar (char : Char) : Bool := char == '\t' || (0x20 ≤ char.toNat && char.toNat ≠ 0x7F)

def isHeaderValue (value : String) : Bool := value.toList.all isHeaderChar

/-- A request needs a URL of the web with a host, and headers that can be written. -/
def make? (method : HttpMethod) (url : String) (headers : List (String × String))
    (body : Bytes) : Except HttpError HttpRequest :=
  match Url.parse url with
  | .error error => .error { kind := .invalidRequest, reason := error.message }
  | .ok parsed =>
    if parsed.authority.isNone ∨ ¬ ["http", "https"].contains parsed.scheme then
      .error { kind := .invalidRequest, reason := "URL scheme is not allowed" }
    else
      match headers.find? (fun header => !isHeaderValue header.2) with
      | some (name, _) => .error { kind := .invalidRequest, reason := "invalid value of " ++ name }
      | none => .ok { method, url := parsed, headers, body }

end HttpRequest

structure HttpAgent where
  userAgent : String
  credentials : Option Credentials := none
deriving DecidableEq

namespace HttpAgent

def withToken (agent : HttpAgent) (token : String) : HttpAgent :=
  { agent with credentials := some (.bearer token) }

def withMaster (agent : HttpAgent) (user password : String) : HttpAgent :=
  { agent with credentials := some (.master user password) }

def withUserAgent (agent : HttpAgent) (userAgent : String) : HttpAgent := { agent with userAgent }

def headers (agent : HttpAgent) (username : String) : List (String × String) :=
  [("accept", "*/*"), ("user-agent", agent.userAgent)] ++
    match agent.credentials with
    | some credentials => [("authorization", credentials.authorization username)]
    | none => []

def request (agent : HttpAgent) (method : HttpMethod) (url username : String)
    (more : List (String × String)) (body : Bytes) : Except HttpError HttpRequest :=
  HttpRequest.make? method url (agent.headers username ++ more) body

end HttpAgent

end Jmap
