import Jmap.Date
import Jmap.Text.Blank

/-!
Dates in text. Reading is lenient about white space between the parts and about
leading zeros; writing gives one form for each point in time and offset.
-/

namespace Jmap.Date

open Jmap.Text

abbrev Chars := List Char

def isDigit (char : Char) : Bool := '0' ≤ char && char ≤ '9'

def digitValue (char : Char) : Nat := char.toNat - '0'.toNat

def natOfDigits (digits : Chars) : Nat :=
  digits.foldl (fun value digit => value * 10 + digitValue digit) 0

/-- A number of one digit or more, and at most `width`. -/
def readNumber? (width : Nat) (text : Chars) : Option (Nat × Chars) :=
  let digits := (text.take width).takeWhile isDigit
  if digits.isEmpty then none else some (natOfDigits digits, text.drop digits.length)

def readLong? (text : Chars) : Option (Nat × Chars) := readNumber? text.length text

/-- A year of up to four digits, or of any number of them behind a sign. -/
def readYear? (text : Chars) : Option (Int × Chars) :=
  match skipBlanks text with
  | '-' :: rest => (readLong? rest).map (fun (year, rest) => (-(year : Int), rest))
  | '+' :: rest => (readLong? rest).map (fun (year, rest) => ((year : Int), rest))
  | rest => (readNumber? 4 rest).map (fun (year, rest) => ((year : Int), rest))

def readPart? (least most : Nat) (text : Chars) : Option (Nat × Chars) := do
  let (value, rest) ← readNumber? 2 (skipBlanks text)
  if least ≤ value ∧ value ≤ most then some (value, rest) else none

def readMark? (mark : Char) (text : Chars) : Option Chars :=
  match skipBlanks text with
  | char :: rest => if char = mark then some rest else none
  | [] => none

/-- Nanoseconds behind a point; digits beyond the ninth are dropped. -/
def readFraction? (text : Chars) : Option (Nat × Chars) :=
  match text with
  | '.' :: rest => do
    let (_, _) ← readNumber? 1 rest
    let digits := (rest.takeWhile isDigit).take 9
    some (natOfDigits digits * Nat.pow 10 (9 - digits.length), rest.dropWhile isDigit)
  | _ => some (0, text)

def readPair? (most : Char) (text : Chars) : Option (Nat × Chars) :=
  match text with
  | tens :: ones :: rest =>
    if isDigit tens ∧ isDigit ones ∧ tens ≤ most then
      some (digitValue tens * 10 + digitValue ones, rest)
    else none
  | _ => none

/-- Minutes east: hours and minutes behind a sign. -/
def readOffset? (text : Chars) : Option (Int × Chars) :=
  let hoursAndMinutes (sign : Int) (rest : Chars) : Option (Int × Chars) := do
    let (hours, rest) ← readPair? '9' rest
    let (minutes, rest) ← readPair? '5' (rest.dropWhile (fun char => char = ':' || isBlank char))
    if hours < 24 then some (sign * (hours * 60 + minutes), rest) else none
  match text with
  | 'Z' :: rest => some (0, rest)
  | 'z' :: rest => some (0, rest)
  | '+' :: rest => hoursAndMinutes 1 rest
  | '-' :: rest => hoursAndMinutes (-1) rest
  | '\u2212' :: rest => hoursAndMinutes (-1) rest
  | u :: t :: c :: rest =>
    if u.toUpper = 'U' ∧ t.toUpper = 'T' ∧ c.toUpper = 'C' then some (0, rest) else none
  | _ => none

def readSeparator? : Chars → Option Chars
  | 'T' :: rest => some rest
  | 't' :: rest => some rest
  | ' ' :: rest => some rest
  | _ => none

end Date

def OffsetTime.of (day : Date.Day) (secondOfDay nanos : Nat) (offset : Int) : OffsetTime :=
  ⟨⟨day.number * 86400 + secondOfDay - offset * 60, nanos⟩, offset⟩

def Instant.day (instant : Instant) : Date.Day := .ofNumber (instant.seconds / 86400)

def Instant.onCalendar (instant : Instant) : Bool :=
  let year := instant.day.year
  Date.firstYear ≤ year && year ≤ Date.lastYear

open Date Text in
def OffsetTime.ofText? (text : String) : Option OffsetTime := do
  let (year, rest) ← readYear? text.toList
  let (month, rest) ← readPart? 1 12 (← readMark? '-' rest)
  let (day, rest) ← readPart? 1 31 (← readMark? '-' rest)
  let (hour, rest) ← readPart? 0 23 (← readSeparator? rest)
  let (minute, rest) ← readPart? 0 59 (← readMark? ':' rest)
  let (second, rest) ← readPart? 0 60 (← readMark? ':' rest)
  let (nanos, rest) ← readFraction? rest
  let (offset, rest) ← readOffset? (skipBlanks rest)
  let date : Day := ⟨year, month, day⟩
  let leap := second = 60
  let time := OffsetTime.of date (hour * 3600 + minute * 60 + (if leap then 59 else second))
    (nanos + if leap then 1000000000 else 0) offset
  if (skipBlanks rest).isEmpty ∧ date.exists ∧ time.instant.onCalendar then some time else none

namespace Date

def padded (width value : Nat) : String :=
  let digits := toString value
  String.ofList (List.replicate (width - digits.length) '0') ++ digits

/-- Four digits, and a sign outside of the years from 0 to 9999. -/
def yearText (year : Int) : String :=
  if 0 ≤ year ∧ year ≤ 9999 then padded 4 year.toNat
  else (if year < 0 then "-" else "+") ++ padded 4 year.natAbs

/-- Three, six or nine digits, the fewest that hold the fraction. -/
def fractionText (nanos : Nat) : String :=
  if nanos = 0 then ""
  else if nanos % 1000000 = 0 then "." ++ padded 3 (nanos / 1000000)
  else if nanos % 1000 = 0 then "." ++ padded 6 (nanos / 1000)
  else "." ++ padded 9 nanos

def offsetText (offset : Int) : String :=
  if offset = 0 then "Z"
  else
    (if offset < 0 then "-" else "+") ++ padded 2 (offset.natAbs / 60) ++ ":" ++
      padded 2 (offset.natAbs % 60)

end Date

open Date Text in
def OffsetTime.render (time : OffsetTime) : String :=
  let told := time.instant.seconds + time.offset * 60
  let day := Day.ofNumber (told / 86400)
  let second := (told % 86400).toNat
  let leap := 1000000000 ≤ time.instant.nanos
  yearText day.year ++ "-" ++ padded 2 day.month ++ "-" ++ padded 2 day.day ++ "T" ++
    padded 2 (second / 3600) ++ ":" ++ padded 2 (second / 60 % 60) ++ ":" ++
    padded 2 (second % 60 + if leap then 1 else 0) ++
    fractionText (if leap then time.instant.nanos - 1000000000 else time.instant.nanos) ++
    offsetText time.offset

def Instant.ofText? (text : String) : Option Instant := (OffsetTime.ofText? text).map (·.instant)

def Instant.render (instant : Instant) : String := OffsetTime.render ⟨instant, 0⟩

end Jmap
