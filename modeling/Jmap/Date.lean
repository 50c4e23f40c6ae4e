/-!
Points in time on the proleptic Gregorian calendar, to the nanosecond. A leap
second is the last second of its minute with a thousand million nanoseconds
more.
-/

namespace Jmap

/-- A point in time: whole seconds since the start of 1970 and nanoseconds. -/
structure Instant where
  seconds : Int
  nanos : Nat
deriving DecidableEq, Inhabited

/-- A point in time as it is told at an offset of minutes east. -/
structure OffsetTime where
  instant : Instant
  offset : Int
deriving DecidableEq, Inhabited

namespace Date

/-- A year, a month from one and a day from one. -/
structure Day where
  year : Int
  month : Nat
  day : Nat
deriving DecidableEq, Inhabited, Repr

def isLeapYear (year : Int) : Bool :=
  year % 4 == 0 && (year % 100 != 0 || year % 400 == 0)

def daysInMonth (year : Int) (month : Nat) : Nat :=
  if month = 2 then (if isLeapYear year then 29 else 28)
  else if month = 4 ∨ month = 6 ∨ month = 9 ∨ month = 11 then 30
  else 31

def firstYear : Int := -262143

def lastYear : Int := 262142

def Day.exists (day : Day) : Bool :=
  firstYear ≤ day.year && day.year ≤ lastYear && 1 ≤ day.month && day.month ≤ 12 &&
    1 ≤ day.day && day.day ≤ daysInMonth day.year day.month

/-- Days since the start of 1970. Years are counted from March, so that the leap
day ends one. -/
def Day.number (day : Day) : Int :=
  let year := if day.month ≤ 2 then day.year - 1 else day.year
  let monthFromMarch : Int := (day.month + 9) % 12
  let dayOfYear := (153 * monthFromMarch + 2) / 5 + day.day - 1
  365 * year + year / 4 - year / 100 + year / 400 + dayOfYear - 719468

def Day.ofNumber (number : Int) : Day :=
  let fromMarch := number + 719468
  let era := fromMarch / 146097
  let dayOfEra := fromMarch % 146097
  let yearOfEra := (dayOfEra - dayOfEra / 1460 + dayOfEra / 36524 - dayOfEra / 146096) / 365
  let dayOfYear := dayOfEra - (365 * yearOfEra + yearOfEra / 4 - yearOfEra / 100)
  let monthFromMarch := (5 * dayOfYear + 2) / 153
  let day := dayOfYear - (153 * monthFromMarch + 2) / 5 + 1
  let month := if monthFromMarch < 10 then monthFromMarch + 3 else monthFromMarch - 9
  let year := yearOfEra + era * 400 + (if month ≤ 2 then 1 else 0)
  ⟨year, month.toNat, day.toNat⟩

end Date

end Jmap
