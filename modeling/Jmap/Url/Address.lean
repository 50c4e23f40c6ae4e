namespace Jmap.Url

abbrev Chars := List Char

def splitAt (mark : Char) : Chars → List Chars
  | [] => [[]]
  | char :: rest =>
    if char = mark then [] :: splitAt mark rest
    else
      match splitAt mark rest with
      | [] => [[char]]
      | part :: parts => (char :: part) :: parts

def hexDigit? (char : Char) : Option Nat :=
  if '0' ≤ char ∧ char ≤ '9' then some (char.toNat - '0'.toNat)
  else if 'a' ≤ char ∧ char ≤ 'f' then some (char.toNat - 'a'.toNat + 10)
  else if 'A' ≤ char ∧ char ≤ 'F' then some (char.toNat - 'A'.toNat + 10)
  else none

def numberOf? (base : Nat) (digits : Chars) : Option Nat :=
  digits.foldlM (fun value char => do
    let digit ← hexDigit? char
    if digit < base then some (value * base + digit) else none) 0

namespace Ipv4

/-- A part of an address: hexadecimal behind `0x`, octal behind `0`. -/
def part? (text : Chars) : Option Nat :=
  match text with
  | [] => none
  | '0' :: 'x' :: digits => numberOf? 16 digits
  | '0' :: 'X' :: digits => numberOf? 16 digits
  | ['0'] => some 0
  | '0' :: digits => numberOf? 8 digits
  | digits => numberOf? 10 digits

/-- The parts of a host; an empty one at the end does not count. -/
def parts (host : Chars) : List Chars :=
  let parts := splitAt '.' host
  if parts.getLast? = some [] then parts.dropLast else parts

/-- A host with a number at its end has to be an address. -/
def endsInNumber (host : Chars) : Bool :=
  if host = [] then false
  else
    match (parts host).getLast? with
    | none => false
    | some last => (!last.isEmpty && last.all Char.isDigit) || (part? last).isSome

/-- All parts but the last are bytes; the last fills the rest of the address. -/
def parse? (host : Chars) : Option Nat := do
  let numbers ← (parts host).mapM part?
  let last ← numbers.getLast?
  let bytes := numbers.dropLast
  if bytes.length ≤ 3 ∧ bytes.all (· ≤ 255) ∧ last < Nat.pow 256 (4 - bytes.length) then
    some (bytes.foldr (fun byte (value, place) => (value + byte * Nat.pow 256 place, place + 1))
      (last, 4 - bytes.length)).1
  else none

def render (address : Nat) : String :=
  String.intercalate "."
    ([3, 2, 1, 0].map (fun place => toString (address / Nat.pow 256 place % 256)))

end Ipv4

namespace Ipv6

def piece? (text : Chars) : Option Nat :=
  if text.isEmpty ∨ 4 < text.length then none else numberOf? 16 text

/-- A byte in decimal without leading zeros. -/
def byte? (text : Chars) : Option Nat :=
  match text with
  | [] => none
  | ['0'] => some 0
  | '0' :: _ => none
  | digits => (numberOf? 10 digits).filter (· ≤ 255)

def quad? (text : Chars) : Option (List Nat) := do
  match ← (splitAt '.' text).mapM byte? with
  | [a, b, c, d] => some [a * 256 + b, c * 256 + d]
  | _ => none

def pieces? : List Chars → Option (List Nat)
  | [] => some []
  | [last] => if last.contains '.' then quad? last else (piece? last).map ([·])
  | part :: parts => do
    let piece ← piece? part
    let pieces ← pieces? parts
    some (piece :: pieces)

def splitGap : Chars → Option (Chars × Chars)
  | ':' :: ':' :: rest => some ([], rest)
  | char :: rest => (splitGap rest).map (fun (before, after) => (char :: before, after))
  | [] => none

def listed? (text : Chars) : Option (List Nat) :=
  if text.isEmpty then some [] else pieces? (splitAt ':' text)

/-- A pair of colons stands for one zero or more. -/
def parse? (text : Chars) : Option (List Nat) :=
  match splitGap text with
  | none => (pieces? (splitAt ':' text)).filter (·.length == 8)
  | some (before, after) => do
    let head ← if before.contains '.' then none else listed? before
    let tail ← listed? after
    if head.length + tail.length ≤ 7 then
      some (head ++ List.replicate (8 - head.length - tail.length) 0 ++ tail)
    else none

def zeroRun : List Nat → Nat
  | 0 :: rest => zeroRun rest + 1
  | _ => 0

def longestRun : (place : Nat) → List Nat → Nat × Nat
  | _, [] => (0, 0)
  | place, piece :: rest =>
    let here := zeroRun (piece :: rest)
    let (otherPlace, other) := longestRun (place + 1) rest
    if 0 < here ∧ other ≤ here then (place, here) else (otherPlace, other)

def hexText (piece : Nat) : String := String.ofList (Nat.toDigits 16 piece)

def join (pieces : List Nat) : String := String.intercalate ":" (pieces.map hexText)

/-- The first longest run of two zeros or more is left out. -/
def render (pieces : List Nat) : String :=
  let (place, length) := longestRun 0 pieces
  if length < 2 then join pieces
  else join (pieces.take place) ++ "::" ++ join (pieces.drop (place + length))

end Ipv6

end Jmap.Url
