import Jmap.Error.Http
import Jmap.Transport.Chunked

/-!
Responses of HTTP/1, read from all bytes that came before the connection was closed.
-/

namespace Jmap

open Utf8 (Bytes)

structure HttpResponse where
  status : UInt16
  /-- Names are in lower case. -/
  headers : List (String × Bytes)
  body : Bytes
  /-- How long the body was announced to be. -/
  length : Option UInt64
  complete : Bool
deriving DecidableEq

namespace HttpResponse

def isVisible (byte : UInt8) : Bool := byte == 0x09 || (0x20 ≤ byte && byte < 0x7F)

def isContent (byte : UInt8) : Bool := isVisible byte || 0x80 ≤ byte

def isDigit (byte : UInt8) : Bool := 0x30 ≤ byte && byte ≤ 0x39

def isBlank (byte : UInt8) : Bool := byte == 0x20 || byte == 0x09

def isNameByte (byte : UInt8) : Bool :=
  let char := Char.ofNat byte.toNat
  char.isAlphanum || "!#$%&'*+-.^_`|~".toList.contains char

def text (bytes : Bytes) : String := String.ofList (bytes.map (fun byte => Char.ofNat byte.toNat))

def strip (bytes : Bytes) : Bytes :=
  ((bytes.dropWhile isBlank).reverse.dropWhile isBlank).reverse

/-- A line, given backwards, without the carriage return at its end. -/
def closeLine : Bytes → Bytes
  | 0x0D :: line => line.reverse
  | line => line.reverse

/-- The lines of a head up to the empty one, and what is behind it. Empty lines in
front of a head are skipped. -/
def splitHead (line : Bytes) (lines : List Bytes) : Bytes → Option (List Bytes × Bytes)
  | [] => none
  | byte :: rest =>
    if byte = 0x0A then
      match closeLine line, lines with
      | [], [] => splitHead [] [] rest
      | [], lines => some (lines.reverse, rest)
      | line, lines => splitHead [] (line :: lines) rest
    else splitHead (byte :: line) lines rest

def readStatus? (line : Bytes) : Option (Nat × Nat) :=
  match (text (line.take 9)), line.drop 9 with
  | "HTTP/1.0 ", rest => (code? rest).map (0, ·)
  | "HTTP/1.1 ", rest => (code? rest).map (1, ·)
  | _, _ => none
where
  code? (rest : Bytes) : Option Nat :=
    let digits := rest.take 3
    let reason := rest.drop 3
    let code := digits.foldl (fun code byte => code * 10 + (byte.toNat - 0x30)) 0
    if digits.length = 3 ∧ digits.all isDigit ∧ reason.all isContent ∧
        (reason = [] ∨ reason.head? = some 0x20) ∧ 100 ≤ code then
      some code
    else none

def readHeader? (line : Bytes) : Option (String × Bytes) :=
  match line.span isNameByte with
  | (name, 0x3A :: value) =>
    if name = [] ∨ ¬ value.all isContent then none else some ((text name).toLower, strip value)
  | _ => none

def values (headers : List (String × Bytes)) (name : String) : List Bytes :=
  (headers.filter (·.1 == name)).map (·.2)

/-- Whether chunks are the last of the encodings of a body. -/
def isChunked (headers : List (String × Bytes)) : Bool :=
  match (values headers "transfer-encoding").getLast? with
  | none => false
  | some value =>
    value.all isVisible &&
      ((text value).splitOn ",").getLast?.map (fun encoding =>
        (encoding.trimAscii.toString).toLower) == some "chunked"

def number? (digits : String) : Option Nat :=
  match digits.toList with
  | [] => none
  | chars =>
    let value := chars.foldl (fun value char => value * 10 + (char.toNat - '0'.toNat)) 0
    if chars.all Char.isDigit ∧ value < UInt64.size then some value else none

/-- The length that headers announce. All of several lengths must be the same. -/
def announced? (headers : List (String × Bytes)) : Option Nat :=
  let parts := (values headers "content-length").flatMap (fun value =>
    if value.all isVisible then
      ((text value).splitOn ",").map (fun part => number? part.trimAscii.toString)
    else [none])
  match parts with
  | some length :: others => if others.all (· == some length) then some length else none
  | _ => none

inductive Framing where
  | length (count : Nat)
  | chunked
  | untilClosed
deriving DecidableEq, Repr

def framing? (version status : Nat) (headers : List (String × Bytes)) : Option Framing :=
  if [101, 204, 304].contains status then some (.length 0)
  else if values headers "transfer-encoding" ≠ [] then
    if version = 0 then none
    else some (if isChunked headers then .chunked else .untilClosed)
  else if values headers "content-length" = [] then some .untilClosed
  else (announced? headers).bind (fun count =>
    if count + 2 < UInt64.size then some (.length count) else none)

def ofParts (status : Nat) (headers : List (String × Bytes)) (framing : Framing) (rest : Bytes) :
    HttpResponse :=
  let status := UInt16.ofNat status
  match framing with
  | .length count =>
    { status, headers, body := rest.take count, length := some (UInt64.ofNat count)
      complete := decide (count ≤ rest.length) }
  | .chunked =>
    let (body, complete) := Chunked.read rest
    { status, headers, body, length := none, complete }
  | .untilClosed => { status, headers, body := rest, length := none, complete := true }

/-- A response that only says that another one is to come. -/
def isInterim (status : Nat) : Bool := status < 200 && status != 101

def readPast? : (interims : Nat) → Bytes → Option HttpResponse
  | 0, _ => none
  | interims + 1, bytes =>
    match splitHead [] [] bytes with
    | some (first :: lines, rest) => do
      let (version, status) ← readStatus? first
      let headers ← lines.mapM readHeader?
      if isInterim status then readPast? interims rest
      else
        let framing ← framing? version status headers
        some (ofParts status headers framing rest)
    | _ => none

def ofBytes? (bytes : Bytes) : Option HttpResponse := readPast? bytes.length bytes

/-- The first value of a header, if it is plain text. -/
def header? (response : HttpResponse) (name : String) : Option String :=
  match values response.headers name with
  | value :: _ => if value.all isVisible then some (text value) else none
  | [] => none

def isSuccess (response : HttpResponse) : Bool := 200 ≤ response.status && response.status < 300

def brokenOff (response : HttpResponse) : HttpError where
  kind := .readingBody
  status := some response.status
  reason := "response body ends early"

/-- The whole body of a success. What the server says of a failure becomes the reason
of the error. -/
def content (response : HttpResponse) : Except HttpError Bytes :=
  if ¬ response.complete then .error response.brokenOff
  else if response.isSuccess then .ok response.body
  else
    .error
      { kind :=
          if response.status = 401 ∨ response.status = 403 then .authenticationFailed
          else .serverResponse
        status := some response.status
        reason := Utf8.shown response.body }

end HttpResponse

end Jmap
