import Jmap.Url.Address
import Jmap.Url.Domain
import Jmap.Url.Path

/-!
Absolute URLs, read and normalised as the URL standard says: scheme and host in
lower case, the default port dropped, dot segments resolved, and characters that
may not stand for themselves percent-encoded.
-/

namespace Jmap

namespace Url

inductive Error where
  | relativeWithoutBase
  | emptyHost
  | invalidPort
  | invalidDomain
  | invalidCharacter
  | invalidIpv4
  | invalidIpv6
deriving DecidableEq, Repr

def Error.message : Error → String
  | .relativeWithoutBase => "relative URL without a base"
  | .emptyHost => "empty host"
  | .invalidPort => "invalid port number"
  | .invalidDomain => "invalid international domain name"
  | .invalidCharacter => "invalid domain character"
  | .invalidIpv4 => "invalid IPv4 address"
  | .invalidIpv6 => "invalid IPv6 address"

inductive Host where
  | domain (name : String)
  | ipv4 (address : Nat)
  | ipv6 (pieces : List Nat)
deriving DecidableEq, Repr, Inhabited

structure Authority where
  username : String
  password : String
  host : Host
  port : Option Nat
deriving DecidableEq, Repr, Inhabited

end Url

structure Url where
  scheme : String
  authority : Option Url.Authority
  path : Url.Path
  query : Option String
  fragment : Option String
deriving DecidableEq, Repr, Inhabited

namespace Url

def Host.render : Host → String
  | .domain name => name
  | .ipv4 address => Ipv4.render address
  | .ipv6 pieces => "[" ++ Ipv6.render pieces ++ "]"

def Authority.render (authority : Authority) : String :=
  let password := if authority.password = "" then "" else ":" ++ authority.password
  let user :=
    if authority.username = "" ∧ authority.password = "" then ""
    else authority.username ++ password ++ "@"
  let port :=
    match authority.port with
    | none => ""
    | some port => ":" ++ toString port
  "//" ++ user ++ authority.host.render ++ port

/-- Two slashes at the start of a path without an authority would make one. -/
def guardPath (url : Url) : String :=
  match url.authority, url.path with
  | none, .list ("" :: _ :: _) => "/."
  | _, _ => ""

def render (url : Url) : String :=
  url.scheme ++ ":" ++ ((url.authority.map Authority.render).getD "") ++ url.guardPath ++
    url.path.render ++ ((url.query.map ("?" ++ ·)).getD "") ++
    ((url.fragment.map ("#" ++ ·)).getD "")

def parseDomain (text : Chars) : Except Error Host := do
  let some decoded := Utf8.decode? (Percent.decode text) | .error .invalidDomain
  let some name := Domain.toAscii? decoded.toList | .error .invalidDomain
  if name.isEmpty then .error .emptyHost
  else if Ipv4.endsInNumber name then
    match Ipv4.parse? name with
    | some address => .ok (.ipv4 address)
    | none => .error .invalidIpv4
  else .ok (.domain (String.ofList name))

def parseBracketed (text : Chars) : Except Error Host :=
  if text.getLast? = some ']' then
    match Ipv6.parse? text.dropLast with
    | some pieces => .ok (.ipv6 pieces)
    | none => .error .invalidIpv6
  else .error .invalidIpv6

def parseOpaqueHost (text : Chars) : Except Error Host :=
  if text.any (fun char => "\x00\t\n\r #/:<>?@[\\]^|".toList.contains char) then
    .error .invalidCharacter
  else .ok (.domain (encoded plainInOpaque text))

def parseHost (kind : Kind) (text : Chars) : Except Error Host :=
  match text with
  | '[' :: rest => parseBracketed rest
  | _ => if kind = .other then parseOpaqueHost text else parseDomain text

def endsAuthority (kind : Kind) (char : Char) : Bool :=
  char == '?' || char == '#' || Path.isSlash kind char

def takeHost : (inside : Bool) → Chars → Chars × Chars
  | _, [] => ([], [])
  | inside, char :: rest =>
    if char = ':' ∧ ¬inside then ([], char :: rest)
    else
      let inside := if char = '[' then true else if char = ']' then false else inside
      let (host, others) := takeHost inside rest
      (char :: host, others)

/-- Digits up to the end; none is no port. -/
def parsePort (scheme : String) (text : Chars) : Except Error (Option Nat) :=
  if text.isEmpty then .ok none
  else if text.all Char.isDigit then
    match numberOf? 10 text with
    | some port =>
      if 65535 < port then .error .invalidPort
      else .ok (if defaultPort? scheme = some port then none else some port)
    | none => .error .invalidPort
  else .error .invalidPort

/-- The text before the last at sign, if there is one, and the text behind it. -/
def splitUser (text : Chars) : Option Chars × Chars :=
  if text.contains '@' then
    let host := (text.reverse.takeWhile (· != '@')).reverse
    (some (text.take (text.length - host.length - 1)), host)
  else (none, text)

def parseUser (text : Chars) : String × String :=
  (encoded plainInUser (text.takeWhile (· != ':')),
    encoded plainInUser ((text.dropWhile (· != ':')).drop 1))

/-- The text between the slashes and the path, and whether anything follows it.
A backslash ends a port whatever the scheme; the text from there on is left. -/
def parseAuthority (scheme : String) (kind : Kind) (text : Chars) (more : Bool) :
    Except Error (Authority × Chars) := do
  let (user, rest) := splitUser text
  if user = some [] ∧ rest.isEmpty ∧ more then .error .emptyHost
  let (username, password) := parseUser (user.getD [])
  let (hostText, behindHost) := takeHost false rest
  if kind = .special ∧ hostText.isEmpty then .error .emptyHost
  let host ← parseHost kind hostText
  if host = .domain "" ∧ !behindHost.isEmpty then .error .emptyHost
  let (portText, left) := (behindHost.drop 1).span (· != '\\')
  let port ← parsePort scheme portText
  if host = .domain "" ∧ (username ≠ "" ∨ password ≠ "") then .error .emptyHost
  .ok ({ username, password, host, port }, left)

def endsPath (char : Char) : Bool := char == '?' || char == '#'

def splitAtFirst (stops : Char → Bool) (text : Chars) : Chars × Chars :=
  (text.takeWhile (!stops ·), text.dropWhile (!stops ·))

def parseTail (kind : Kind) (text : Chars) : Option String × Option String :=
  let (before, after) := splitAtFirst (· == '#') text
  let query :=
    match before with
    | '?' :: query =>
      some (encoded (if kind = .other then plainInQuery else plainInSpecialQuery) query)
    | _ => none
  let fragment :=
    match after with
    | '#' :: fragment => some (encoded plainInFragment fragment)
    | _ => none
  (query, fragment)

def withTail (scheme : String) (kind : Kind) (authority : Option Authority) (path : Path)
    (tail : Chars) : Url :=
  let (query, fragment) := parseTail kind tail
  { scheme, authority, path, query, fragment }

def parseHierarchical (scheme : String) (kind : Kind) (text : Chars) : Except Error Url := do
  let (authorityText, rest) := splitAtFirst (endsAuthority kind) text
  let (authority, left) ← parseAuthority scheme kind authorityText (!rest.isEmpty)
  let (pathText, tail) := splitAtFirst endsPath (left ++ rest)
  let segments :=
    if pathText.isEmpty ∧ kind = .other then []
    else Path.segments kind (Path.dropSlash kind pathText)
  .ok (withTail scheme kind (some authority) (.list segments) tail)

/-- A file: its host, if there is one, stands behind two slashes. A path that
begins with a drive needs no host. Where no host stands between the slashes, the
one behind it belongs to the path, so that no drive is at the front. -/
def parseFile (text : Chars) : Except Error Url := do
  let finish (host : Host) (readPath : Chars → List String) (text : Chars) : Url :=
    let (pathText, tail) := splitAtFirst endsPath text
    let segments := readPath pathText
    let host := if Path.beginsWithDrive segments then .domain "" else host
    withTail "file" .file (some { username := "", password := "", host, port := none })
      (.list (Path.trimLeading segments)) tail
  let nowhere : Host := .domain ""
  let whole := Path.segments .file
  let behindSlash (text : Chars) := Path.segments .file (Path.dropSlash .file text)
  match text with
  | first :: second :: rest =>
    if Path.isSlash .file first ∧ Path.isSlash .file second then
      let (hostText, pathText) := splitAtFirst (endsAuthority .file) rest
      if hostText.isEmpty then .ok (finish nowhere whole pathText)
      else if (Path.driveLetter? (String.ofList hostText)).isSome then
        .ok (finish nowhere whole rest)
      else
        let host ← parseHost .file hostText
        if host = .domain "localhost" then .ok (finish nowhere whole pathText)
        else .ok (finish host behindSlash pathText)
    else .ok (finish nowhere behindSlash text)
  | _ => .ok (finish nowhere behindSlash text)

def parseOther (scheme : String) (text : Chars) : Except Error Url :=
  match text with
  | '/' :: '/' :: rest => parseHierarchical scheme .other rest
  | '/' :: rest =>
    let (pathText, tail) := splitAtFirst endsPath rest
    .ok (withTail scheme .other none (.list (Path.segments .other pathText)) tail)
  | _ =>
    let (pathText, tail) := splitAtFirst endsPath text
    .ok (withTail scheme .other none (.text (encoded plainInOpaque pathText)) tail)

def isControlOrSpace (char : Char) : Bool := char.toNat ≤ 0x20

def isTabOrNewline (char : Char) : Bool := char == '\t' || char == '\n' || char == '\r'

/-- Controls and spaces around the text do not count, nor do tabs and line ends
in it. -/
def clean (text : Chars) : Chars :=
  let trimmed :=
    ((text.dropWhile isControlOrSpace).reverse.dropWhile isControlOrSpace).reverse
  trimmed.filter (!isTabOrNewline ·)

def parse (text : String) : Except Error Url :=
  match splitScheme? (clean text.toList) with
  | none => .error .relativeWithoutBase
  | some (scheme, rest) =>
    match kindOf scheme with
    | .file => parseFile rest
    | .special => parseHierarchical scheme .special (rest.dropWhile (Path.isSlash .special))
    | .other => parseOther scheme rest

end Url

end Jmap
