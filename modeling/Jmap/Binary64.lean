/-!
Binary floating point numbers of 64 bits, without infinities: a sign, a
significand below `2 ^ 53` and an exponent of two from `-1074` to `971`.
Arithmetic is exact on ratios of natural numbers and rounded once, to the
nearest number and at a tie to the even significand.
-/

namespace Jmap

/-- The number `± significand * 2 ^ exponent`. -/
structure Binary64 where
  negative : Bool
  significand : Nat
  exponent : Int
deriving DecidableEq, Inhabited

namespace Binary64

def zero (negative : Bool) : Binary64 := ⟨negative, 0, -1074⟩

def isZero (number : Binary64) : Bool := number.significand == 0

/-- The nearest natural number to a ratio, at a tie the even one. -/
def roundRatio (numerator denominator : Nat) : Nat :=
  let quotient := numerator / denominator
  let rest := 2 * (numerator % denominator)
  if rest < denominator then quotient
  else if denominator < rest then quotient + 1
  else quotient + quotient % 2

/-- The exponent of the largest power of two not above a positive ratio. -/
def floorLog2 (numerator denominator : Nat) : Int :=
  let guess : Int := (numerator.log2 : Int) - denominator.log2
  if denominator * Nat.pow 2 guess.toNat ≤ numerator * Nat.pow 2 (-guess).toNat then guess
  else guess - 1

/-- The nearest number to a ratio, unless it lies beyond the largest one. -/
def ofRatio? (negative : Bool) (numerator denominator : Nat) : Option Binary64 :=
  if numerator = 0 then some (zero negative)
  else
    let exponent := max (floorLog2 numerator denominator - 52) (-1074)
    let rounded :=
      roundRatio (numerator * Nat.pow 2 (-exponent).toNat)
        (denominator * Nat.pow 2 exponent.toNat)
    let number : Binary64 :=
      if rounded = Nat.pow 2 53 then ⟨negative, Nat.pow 2 52, exponent + 1⟩
      else ⟨negative, rounded, exponent⟩
    if 971 < number.exponent then none else some number

def numerator (number : Binary64) : Nat := number.significand * Nat.pow 2 number.exponent.toNat

def denominator (number : Binary64) : Nat := Nat.pow 2 (-number.exponent).toNat

def powerOfTen? (power : Nat) : Option Binary64 := ofRatio? false (Nat.pow 10 power) 1

def mul? (left right : Binary64) : Option Binary64 :=
  ofRatio? (left.negative != right.negative) (left.numerator * right.numerator)
    (left.denominator * right.denominator)

def div? (left right : Binary64) : Option Binary64 :=
  ofRatio? (left.negative != right.negative) (left.numerator * right.denominator)
    (left.denominator * right.numerator)

end Binary64

end Jmap
