import Jmap.Json.Outline
import Jmap.Binary64.Decimal

/-!
The scalars of a JSON text: what stands between quotes, and numbers. Text is a
list of characters in which `none` is a byte that belongs to no character.
-/

namespace Jmap.Json.Outline

abbrev Symbols := List (Option Char)

inductive StringUnit where
  | char (value : Char)
  /-- A unit of sixteen bits given by its hexadecimal digits. -/
  | escaped (value : Nat)
  | stray
deriving DecidableEq, Repr

def hexValue? (symbol : Option Char) : Option Nat :=
  match symbol with
  | none => none
  | some char =>
    if '0' ≤ char ∧ char ≤ '9' then some (char.toNat - '0'.toNat)
    else if 'a' ≤ char ∧ char ≤ 'f' then some (char.toNat - 'a'.toNat + 10)
    else if 'A' ≤ char ∧ char ≤ 'F' then some (char.toNat - 'A'.toNat + 10)
    else none

def symbolSize : Option Char → Nat
  | none => 1
  | some char => char.utf8Size

def symbolsSize : Symbols → Nat
  | [] => 0
  | symbol :: symbols => symbolSize symbol + symbolsSize symbols

def escape? : Option Char → Option Char
  | some '"' => some '"'
  | some '\\' => some '\\'
  | some '/' => some '/'
  | some 'b' => some '\x08'
  | some 'f' => some '\x0c'
  | some 'n' => some '\n'
  | some 'r' => some '\r'
  | some 't' => some '\t'
  | _ => none

/-- The units up to the closing quote and the text behind it, or the fault that
comes before one. -/
def scanUnits : Symbols → List StringUnit × Except Fault Symbols
  | [] => ([], .error .truncated)
  | some '"' :: rest => ([], .ok rest)
  | [some '\\'] => ([], .error .truncated)
  | some '\\' :: some 'u' :: a :: b :: c :: d :: rest =>
    match hexValue? a, hexValue? b, hexValue? c, hexValue? d with
    | some a, some b, some c, some d =>
      let (units, outcome) := scanUnits rest
      (.escaped (a * 4096 + b * 256 + c * 16 + d) :: units, outcome)
    | _, _, _, _ => ([], .error .malformed)
  | some '\\' :: some 'u' :: rest =>
    -- four bytes are taken together before any is looked at
    ([], .error (if symbolsSize rest < 4 then .truncated else .malformed))
  | some '\\' :: letter :: rest =>
    match escape? letter with
    | some char =>
      let (units, outcome) := scanUnits rest
      (.char char :: units, outcome)
    | none => ([], .error .malformed)
  | none :: rest =>
    let (units, outcome) := scanUnits rest
    (.stray :: units, outcome)
  | some char :: rest =>
    if char.toNat < 0x20 then ([], .error .malformed)
    else
      let (units, outcome) := scanUnits rest
      (.char char :: units, outcome)

def isHighSurrogate (value : Nat) : Bool := 0xD800 ≤ value && value < 0xDC00

def isLowSurrogate (value : Nat) : Bool := 0xDC00 ≤ value && value < 0xE000

/-- The characters of the units: surrogates count only in pairs, and stray bytes
spoil the text. -/
def charsOfUnits? : List StringUnit → Option (List Char)
  | [] => some []
  | .char char :: units => (charsOfUnits? units).map (char :: ·)
  | .stray :: _ => none
  | .escaped high :: .escaped low :: units =>
    if isHighSurrogate high then
      if isLowSurrogate low then
        (charsOfUnits? units).map
          (Char.ofNat ((high - 0xD800) * 1024 + (low - 0xDC00) + 0x10000) :: ·)
      else none
    else if isLowSurrogate high then none
    else (charsOfUnits? (.escaped low :: units)).map (Char.ofNat high :: ·)
  | .escaped code :: units =>
    if isHighSurrogate code || isLowSurrogate code then none
    else (charsOfUnits? units).map (Char.ofNat code :: ·)

/-- A surrogate stands alone, whatever may follow the units. -/
def hasLoneSurrogate : List StringUnit → Bool
  | [] => false
  | [.escaped code] => isLowSurrogate code
  | .escaped high :: .escaped low :: units =>
    if isHighSurrogate high then
      if isLowSurrogate low then hasLoneSurrogate units else true
    else isLowSurrogate high || hasLoneSurrogate (.escaped low :: units)
  | .escaped code :: unit :: units =>
    isHighSurrogate code || isLowSurrogate code || hasLoneSurrogate (unit :: units)
  | _ :: units => hasLoneSurrogate units

/-- A quoted text behind its opening quote: what it says if it can be kept, and
what follows; else the faults for keeping and for skipping it. -/
inductive Quoted where
  | closed (text : Option String) (rest : Symbols)
  | broken (keeping skipping : Fault)

def scanQuoted (input : Symbols) : Quoted :=
  let (units, outcome) := scanUnits input
  match outcome with
  | .ok rest => .closed ((charsOfUnits? units).map String.ofList) rest
  | .error fault => .broken (if hasLoneSurrogate units then .malformed else fault) fault

def isDigit : Option Char → Bool
  | some char => '0' ≤ char && char ≤ '9'
  | none => false

def scanDigits : Symbols → List Nat × Symbols
  | some char :: rest =>
    if isDigit (some char) then
      let (digits, rest) := scanDigits rest
      ((char.toNat - '0'.toNat) :: digits, rest)
    else ([], some char :: rest)
  | rest => ([], rest)

structure NumberText where
  negative : Bool
  whole : List Nat
  fraction : List Nat
  exponent : Option (Bool × List Nat)
deriving Repr

def scanSomeDigits (input : Symbols) : Except Fault (List Nat × Symbols) :=
  match scanDigits input with
  | ([], []) => .error .truncated
  | ([], _) => .error .malformed
  | found => .ok found

def scanWhole (input : Symbols) : Except Fault (List Nat × Symbols) :=
  match input with
  | some '0' :: rest =>
    match rest with
    | next :: _ => if isDigit next then .error .malformed else .ok ([0], rest)
    | [] => .ok ([0], rest)
  | _ => scanSomeDigits input

def scanFraction (input : Symbols) : Except Fault (List Nat × Symbols) :=
  match input with
  | some '.' :: rest => scanSomeDigits rest
  | _ => .ok ([], input)

def scanExponent (input : Symbols) : Except Fault (Option (Bool × List Nat) × Symbols) :=
  let signed (rest : Symbols) : Except Fault (Option (Bool × List Nat) × Symbols) :=
    match rest with
    | some '-' :: rest =>
      (scanSomeDigits rest).map (fun (digits, rest) => (some (true, digits), rest))
    | some '+' :: rest =>
      (scanSomeDigits rest).map (fun (digits, rest) => (some (false, digits), rest))
    | _ => (scanSomeDigits rest).map (fun (digits, rest) => (some (false, digits), rest))
  match input with
  | some 'e' :: rest => signed rest
  | some 'E' :: rest => signed rest
  | _ => .ok (none, input)

def scanNumber (negative : Bool) (input : Symbols) : Except Fault (NumberText × Symbols) := do
  let (whole, rest) ← scanWhole input
  let (fraction, rest) ← scanFraction rest
  let (exponent, rest) ← scanExponent rest
  .ok (⟨negative, whole, fraction, exponent⟩, rest)

/-- Digits taken into a significand as long as it fits 64 bits, and the number
of digits left over. -/
def takeDigits (significand : Nat) : List Nat → Nat × Nat
  | [] => (significand, 0)
  | digit :: digits =>
    let next := significand * 10 + digit
    if next < UInt64.size then takeDigits next digits
    else (significand, (digit :: digits).length)

def natOfDigits (digits : List Nat) : Nat := digits.foldl (fun value digit => value * 10 + digit) 0

/-- The value: an integer if it is written as one and fits 64 bits; otherwise
the nearest number to the leading digits, unless it is out of range. -/
def NumberText.value? (number : NumberText) : Option Json :=
  let integer := natOfDigits number.whole
  if number.fraction.isEmpty ∧ number.exponent.isNone ∧
      (if number.negative then 0 < integer ∧ integer ≤ 9223372036854775808
        else integer < UInt64.size) then
    some (.int (if number.negative then -integer else integer))
  else
    let (significand, dropped) := takeDigits 0 number.whole
    let (significand, beyond) := takeDigits significand number.fraction
    let point : Int := (dropped : Int) - (number.fraction.length - beyond : Nat)
    let power : Int :=
      match number.exponent with
      | none => point
      | some (true, digits) => point - natOfDigits digits
      | some (false, digits) => point + natOfDigits digits
    (Binary64.ofDecimal? number.negative significand power).map .float

end Jmap.Json.Outline
