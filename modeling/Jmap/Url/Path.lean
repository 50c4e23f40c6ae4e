import Jmap.Url.Plain
import Jmap.Url.Scheme

/-!
Paths of URLs. The segments of a path are read from left to right, and dot
segments are resolved on the way. A segment that names a drive is never removed
again.
-/

namespace Jmap.Url

/-- A path is a list of segments, or a text with a meaning of its own. -/
inductive Path where
  | list (segments : List String)
  | text (content : String)
deriving DecidableEq, Repr, Inhabited

def Path.render : Path → String
  | .list segments => String.join (segments.map ("/" ++ ·))
  | .text content => content

namespace Path

def isSlash (kind : Kind) (char : Char) : Bool := char == '/' || (char == '\\' && kind != .other)

def splitSegments (kind : Kind) : List Char → List (List Char)
  | [] => [[]]
  | char :: rest =>
    if isSlash kind char then [] :: splitSegments kind rest
    else
      match splitSegments kind rest with
      | [] => [[char]]
      | segment :: segments => (char :: segment) :: segments

def isSingleDot (segment : String) : Bool := [".", "%2e", "%2E"].contains segment

def isDoubleDot (segment : String) : Bool :=
  ["..", "%2e%2e", "%2e%2E", "%2E%2e", "%2E%2E", "%2e.", "%2E.", ".%2e", ".%2E"].contains segment

def splitDrive? (segment : String) : Option (Char × List Char) :=
  match segment.toList with
  | letter :: mark :: rest =>
    if letter.isAlpha ∧ (mark = ':' ∨ mark = '|') then some (letter, rest) else none
  | _ => none

def driveLetter? (segment : String) : Option Char :=
  match splitDrive? segment with
  | some (letter, []) => some letter
  | _ => none

/-- A segment that names a drive, alone or in front of a backslash. -/
def namesDrive (segment : String) : Bool :=
  match splitDrive? segment with
  | some (_, []) => true
  | some (_, next :: _) => next == '\\'
  | none => false

/-- Removes the last segment, unless it names a drive. -/
def shorten (path : List String) : List String :=
  if path.getLast?.any namesDrive then path else path.dropLast

/-- Appends segments to a path: a single dot is left out, a double dot removes
the segment before it; at the end of the path either leaves an empty segment. The
drive of a file at the front of its path is written with a colon. -/
def resolve (kind : Kind) (path : List String) : List (List Char) → List String
  | [] => path
  | segment :: rest =>
    let text := encoded plainInPath segment
    let dotted (path : List String) := if rest.isEmpty then path ++ [""] else path
    if isDoubleDot text then resolve kind (dotted (shorten path)) rest
    else if isSingleDot text then resolve kind (dotted path) rest
    else
      match driveLetter? text with
      | some letter =>
        if kind = .file ∧ path.isEmpty then resolve kind [String.ofList [letter, ':']] rest
        else resolve kind (path ++ [text]) rest
      | none => resolve kind (path ++ [text]) rest

def segments (kind : Kind) (text : List Char) : List String :=
  resolve kind [] (splitSegments kind text)

/-- A slash in front does not belong to the first segment. -/
def dropSlash (kind : Kind) (text : List Char) : List Char :=
  match text with
  | [] => []
  | first :: rest => if isSlash kind first then rest else text

def beginsWithDrive (path : List String) : Bool := path.head?.any (driveLetter? · |>.isSome)

/-- Empty segments at the start of a file's path do not count. -/
def trimLeading (path : List String) : List String :=
  match path.dropWhile (· == "") with
  | [] => [""]
  | path => path

end Path

end Jmap.Url
