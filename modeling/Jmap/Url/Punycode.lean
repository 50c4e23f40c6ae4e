/-!
Domain labels in ASCII. The characters outside of ASCII are taken in increasing
order; for each place where one is to be inserted, the distance from the place
before is written as a number of variable length (RFC 3492).
-/

namespace Jmap.Url.Punycode

def digitChar (digit : Nat) : Char :=
  if digit < 26 then Char.ofNat ('a'.toNat + digit) else Char.ofNat ('0'.toNat + digit - 26)

def digit? (char : Char) : Option Nat :=
  if 'a' ≤ char ∧ char ≤ 'z' then some (char.toNat - 'a'.toNat)
  else if 'A' ≤ char ∧ char ≤ 'Z' then some (char.toNat - 'A'.toNat)
  else if '0' ≤ char ∧ char ≤ '9' then some (char.toNat - '0'.toNat + 26)
  else none

/-- From which value on a digit is not the last of its number. -/
def threshold (place bias : Nat) : Nat :=
  if place ≤ bias then 1 else if bias + 26 ≤ place then 26 else place - bias

def shrink (delta steps : Nat) : Nat × Nat :=
  if 455 < delta then shrink (delta / 35) (steps + 36) else (delta, steps)
termination_by delta
decreasing_by exact Nat.div_lt_self (by omega) (by omega)

def adapt (delta count : Nat) (first : Bool) : Nat :=
  let damped := if first then delta / 700 else delta / 2
  let (delta, steps) := shrink (damped + damped / count) 0
  steps + 36 * delta / (delta + 38)

def encodeNumber (bias place value : Nat) : List Char :=
  let least := threshold place bias
  if value < least then [digitChar value]
  else
    digitChar (least + (value - least) % (36 - least)) ::
      encodeNumber bias (place + 36) ((value - least) / (36 - least))
termination_by value
decreasing_by
  have positive : 1 ≤ threshold place bias := by
    unfold threshold
    repeat' split
    all_goals omega
  exact Nat.lt_of_le_of_lt (Nat.div_le_self _ _) (by omega)

structure Encoder where
  written : List Char
  delta : Nat
  bias : Nat
  handled : Nat

/-- Passes one character while those of a code are inserted. -/
def Encoder.pass (basic code : Nat) (encoder : Encoder) (char : Char) : Encoder :=
  if char.toNat < code then { encoder with delta := encoder.delta + 1 }
  else if char.toNat = code then
    { written := encoder.written ++ encodeNumber encoder.bias 36 encoder.delta
      delta := 0
      bias := adapt encoder.delta (encoder.handled + 1) (encoder.handled == basic)
      handled := encoder.handled + 1 }
  else encoder

def insertCodes (input : List Char) (basic : Nat) :
    List Nat → (next : Nat) → Encoder → Encoder
  | [], _, encoder => encoder
  | code :: codes, next, encoder =>
    let moved := { encoder with delta := encoder.delta + (code - next) * (encoder.handled + 1) }
    let passed := input.foldl (Encoder.pass basic code) moved
    insertCodes input basic codes (code + 1) { passed with delta := passed.delta + 1 }

/-- The most characters that are encoded, and the most that are decoded. -/
def longestText : Nat := 1000

def longestCode : Nat := 2000

def encode (input : List Char) : List Char :=
  let basic := input.filter (fun char => char.toNat < 0x80)
  let codes := ((input.filter (fun char => 0x80 ≤ char.toNat)).map Char.toNat).eraseDups.mergeSort
  let encoder := insertCodes input basic.length codes 128 ⟨[], 0, 72, basic.length⟩
  basic ++ (if basic.isEmpty then [] else ['-']) ++ encoder.written

def encode? (input : List Char) : Option (List Char) :=
  if longestText < input.length then none else some (encode input)

/-- Reads one number on top of `index`; the digits left over. Numbers and the
weights of their digits have 32 bits. -/
def decodeNumber? (bias : Nat) :
    List Char → (place weight index : Nat) → Option (Nat × List Char)
  | [], _, _, _ => none
  | char :: rest, place, weight, index =>
    match digit? char with
    | none => none
    | some digit =>
      let least := threshold place bias
      let index := index + digit * weight
      if UInt32.size ≤ index ∨ UInt32.size ≤ weight then none
      else if digit < least then some (index, rest)
      else decodeNumber? bias rest (place + 36) (weight * (36 - least)) index

def decodeNumbers? :
    (fuel bias code index : Nat) → List Char → List Char → Option (List Char)
  | _, _, _, _, made, [] => some made
  | 0, _, _, _, _, _ :: _ => none
  | fuel + 1, bias, code, index, made, digits =>
    match decodeNumber? bias digits 36 1 index with
    | none => none
    | some (reached, rest) =>
      let count := made.length + 1
      let code := code + reached / count
      let place := reached % count
      if code.isValidChar then
        decodeNumbers? fuel (adapt (reached - index) count (index == 0)) code (place + 1)
          (made.insertIdx place (Char.ofNat code)) rest
      else none

/-- The text before the last hyphen stands for itself. A hyphen with nothing
before it is not one that ends such a text, and no digit either. -/
def decode? (input : List Char) : Option (List Char) :=
  let digits := (input.reverse.takeWhile (· != '-')).reverse
  let basic := input.take (input.length - digits.length - 1)
  if basic.any (fun char => 0x80 ≤ char.toNat) ∨ longestCode < input.length then none
  else if basic.isEmpty then decodeNumbers? (input.length + 1) 72 128 0 [] input
  else decodeNumbers? (digits.length + 1) 72 128 0 basic digits

end Jmap.Url.Punycode
