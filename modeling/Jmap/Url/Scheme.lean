/-!
Schemes of URLs. Some are special: their URLs have a host, and a backslash counts
as a slash in them.
-/

namespace Jmap.Url

inductive Kind where
  | file
  | special
  | other
deriving DecidableEq, Repr

def kindOf (scheme : String) : Kind :=
  if scheme = "file" then .file
  else if ["http", "https", "ws", "wss", "ftp"].contains scheme then .special
  else .other

def defaultPort? (scheme : String) : Option Nat :=
  match scheme with
  | "http" => some 80
  | "ws" => some 80
  | "https" => some 443
  | "wss" => some 443
  | "ftp" => some 21
  | _ => none

def isSchemeChar (char : Char) : Bool :=
  char.isAlphanum || char == '+' || char == '-' || char == '.'

def splitScheme? (text : List Char) : Option (String × List Char) :=
  let scheme := text.takeWhile isSchemeChar
  match scheme.head?, text.dropWhile isSchemeChar with
  | some first, ':' :: rest =>
    if first.isAlpha then some (String.ofList (scheme.map Char.toLower), rest) else none
  | _, _ => none

end Jmap.Url
