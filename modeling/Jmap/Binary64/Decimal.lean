import Jmap.Binary64

/-!
Decimal text of binary numbers. `ofDecimal?` gives the number that a significand
and a power of ten stand for; `shortestDigits` gives the fewest decimal digits
that lie nearest to a number and inside the interval of reals rounding to it.
-/

namespace Jmap.Binary64

/-- Divides by a power of ten, by at most `10 ^ 308` at a time. Two divisions by
that much leave nothing of a significand of 64 bits. -/
def scaleDown (number : Binary64) (power : Nat) : Option Binary64 :=
  let divide (number : Binary64) (power : Nat) := (powerOfTen? power).bind number.div?
  if power ≤ 308 then divide number power
  else if power ≤ 616 then (divide number 308).bind (divide · (power - 308))
  else some (zero number.negative)

/-- The number written `± significand * 10 ^ power`: the significand and the
power of ten are each rounded, then multiplied or divided. There is none beyond
the largest number. -/
def ofDecimal? (negative : Bool) (significand : Nat) (power : Int) : Option Binary64 :=
  match ofRatio? negative significand 1 with
  | none => none
  | some number =>
    if number.isZero then some number
    else if power < 0 then scaleDown number (-power).toNat
    else if power ≤ 308 then (powerOfTen? power.toNat).bind number.mul?
    else none

def digitCount (number : Nat) : Nat := (Nat.toDigits 10 number).length

/-- Twice the bounds of the reals that round to a number, on the grid of a
quarter of its last place; the bounds belong to them if the last is `true`. -/
def roundingInterval (number : Binary64) : Nat × Nat × Bool :=
  let centre := 4 * number.significand
  let below := if number.significand = Nat.pow 2 52 ∧ -1074 < number.exponent then 1 else 2
  (centre - below, centre + 2, number.significand % 2 == 0)

def leadingPower (numerator denominator : Nat) : Int :=
  if denominator ≤ numerator then (digitCount (numerator / denominator) : Int) - 1
  else -(digitCount ((denominator + numerator - 1) / numerator - 1) : Int)

/-- The neighbour of a number on the grid of multiples of `10 ^ power` that is
nearest to it among those that round to it. -/
def onGrid? (number : Binary64) (power : Int) : Option Nat :=
  let (low, high, closed) := number.roundingInterval
  -- all quantities are multiples of a quarter of the last place times the grid
  let unit := Nat.pow 2 number.exponent.toNat * Nat.pow 10 (-power).toNat
  let grid := 4 * Nat.pow 2 (-number.exponent).toNat * Nat.pow 10 power.toNat
  let value := 4 * number.significand * unit
  let inside (count : Nat) : Bool :=
    let place := count * grid
    if closed then low * unit ≤ place && place ≤ high * unit
    else low * unit < place && place < high * unit
  let below := value / grid
  let above := below + 1
  let gapBelow := value - below * grid
  let gapAbove := above * grid - value
  match inside below, inside above with
  | true, true =>
    if gapBelow < gapAbove then some below
    else if gapAbove < gapBelow then some above
    else some (below + below % 2)
  | true, false => some below
  | false, true => some above
  | false, false => none

def shortestFrom (number : Binary64) (leading : Int) : List Nat → Nat × Int
  | [] => (0, 0)
  | count :: rest =>
    let power := leading - count
    match number.onGrid? power with
    | some digits => (digits, power)
    | none => shortestFrom number leading rest

def stripZeros (digits : Nat) (power : Int) : Nat → Nat × Int
  | 0 => (digits, power)
  | fuel + 1 =>
    if digits ≠ 0 ∧ digits % 10 = 0 then stripZeros (digits / 10) (power + 1) fuel
    else (digits, power)

/-- The shortest digits and the power of ten of the last of them. -/
def shortestDigits (number : Binary64) : Nat × Int :=
  if number.isZero then (0, 0)
  else
    let leading := leadingPower number.numerator number.denominator
    let (digits, power) := number.shortestFrom leading (List.range 17)
    stripZeros digits power 17

def zeros (count : Nat) : String := String.ofList (List.replicate count '0')

/-- Digits with a point before the last `places` of them, and at least one digit
on either side of it. -/
def positional (digits : Nat) (power : Int) : String :=
  let text := toString digits
  if 0 ≤ power then text ++ zeros power.toNat ++ ".0"
  else
    let places := (-power).toNat
    if places < text.length then
      String.ofList (text.toList.take (text.length - places)) ++ "." ++
        String.ofList (text.toList.drop (text.length - places))
    else "0." ++ zeros (places - text.length) ++ text

def scientific (digits : Nat) (power : Int) : String :=
  let text := toString digits
  let exponent := power + text.length - 1
  let exponentText := (if exponent < 0 then "e" else "e+") ++ toString exponent
  match text.toList with
  | first :: (second :: rest) =>
    String.ofList (first :: '.' :: second :: rest) ++ exponentText
  | _ => text ++ exponentText

def signText (number : Binary64) : String := if number.negative then "-" else ""

/-- The shortest digits, positional when the point falls at most five places
before them and at most sixteen after the first; always with a fraction digit
there. -/
def render (number : Binary64) : String :=
  let (digits, power) := number.shortestDigits
  let point : Int := power + (toString digits).length
  number.signText ++
    if number.isZero then "0.0"
    else if -5 < point ∧ point ≤ 16 then positional digits power
    else scientific digits power

end Jmap.Binary64
