import Jmap.Binary64

/-!
Scalars of TOML text: strings in four notations, and words, which are numbers,
truth values or dates.
-/

namespace Jmap.Toml

abbrev Chars := List Char

def isSpace (char : Char) : Bool := char == ' ' || char == '\t'

def skipSpaces (text : Chars) : Chars := text.dropWhile isSpace

/-- A control character, which stands in no text but the tab. -/
def isControl (char : Char) : Bool :=
  (char.toNat < 0x20 && char != '\t') || char == '\x7f'

def hexDigit? (char : Char) : Option Nat :=
  if '0' ≤ char ∧ char ≤ '9' then some (char.toNat - '0'.toNat)
  else if 'a' ≤ char ∧ char ≤ 'f' then some (char.toNat - 'a'.toNat + 10)
  else if 'A' ≤ char ∧ char ≤ 'F' then some (char.toNat - 'A'.toNat + 10)
  else none

def charOf? (digits : Chars) : Option Char := do
  let code ← digits.foldlM (fun code char => (hexDigit? char).map (code * 16 + ·)) 0
  if code.isValidChar then some (Char.ofNat code) else none

def escape? : Char → Option Char
  | 'b' => some '\x08'
  | 'e' => some '\x1b'
  | 't' => some '\t'
  | 'n' => some '\n'
  | 'f' => some '\x0c'
  | 'r' => some '\r'
  | '"' => some '"'
  | '\\' => some '\\'
  | _ => none

abbrev Scanned := Option (Chars × Chars)

def Scanned.push (char : Char) (scanned : Scanned) : Scanned :=
  scanned.map (fun (chars, rest) => (char :: chars, rest))

def scanBasic : Chars → Scanned
  | [] => none
  | '"' :: rest => some ([], rest)
  | '\\' :: 'x' :: a :: b :: rest => do
    (scanBasic rest).push (← charOf? [a, b])
  | '\\' :: 'u' :: a :: b :: c :: d :: rest => do
    (scanBasic rest).push (← charOf? [a, b, c, d])
  | '\\' :: 'U' :: a :: b :: c :: d :: e :: f :: g :: h :: rest => do
    (scanBasic rest).push (← charOf? [a, b, c, d, e, f, g, h])
  | '\\' :: letter :: rest => do
    (scanBasic rest).push (← escape? letter)
  | char :: rest => if isControl char || char == '\\' then none else (scanBasic rest).push char

def scanLiteral : Chars → Scanned
  | [] => none
  | char :: rest =>
    if char = '\'' then some ([], rest)
    else if isControl char then none
    else (scanLiteral rest).push char

def endsLine (text : Chars) : Bool :=
  match skipSpaces text with
  | '\n' :: _ => true
  | '\r' :: '\n' :: _ => true
  | _ => false

/-- A string over several lines, behind its quotes. Behind a backslash at the end
of a line everything up to the next character is left out (`gap`). Up to two
quotes may stand before those that end it. -/
def scanLongBasic : (gap : Bool) → Chars → Scanned
  | _, [] => none
  | _, '"' :: '"' :: '"' :: '"' :: '"' :: rest => some (['"', '"'], rest)
  | _, '"' :: '"' :: '"' :: '"' :: rest => some (['"'], rest)
  | _, '"' :: '"' :: '"' :: rest => some ([], rest)
  | _, '\\' :: 'x' :: a :: b :: rest => do
    (scanLongBasic false rest).push (← charOf? [a, b])
  | _, '\\' :: 'u' :: a :: b :: c :: d :: rest => do
    (scanLongBasic false rest).push (← charOf? [a, b, c, d])
  | _, '\\' :: 'U' :: a :: b :: c :: d :: e :: f :: g :: h :: rest => do
    (scanLongBasic false rest).push (← charOf? [a, b, c, d, e, f, g, h])
  | _, '\\' :: letter :: rest =>
    if endsLine (letter :: rest) then scanLongBasic true (letter :: rest)
    else do (scanLongBasic false rest).push (← escape? letter)
  | gap, '\r' :: '\n' :: rest =>
    if gap then scanLongBasic true rest else ((scanLongBasic false rest).push '\n').push '\r'
  | gap, char :: rest =>
    if gap && (isSpace char || char == '\n') then scanLongBasic true rest
    else if (isControl char && char != '\n') || char == '\\' then none
    else (scanLongBasic false rest).push char

def scanLongLiteral : Chars → Scanned
  | [] => none
  | '\'' :: '\'' :: '\'' :: '\'' :: '\'' :: rest => some (['\'', '\''], rest)
  | '\'' :: '\'' :: '\'' :: '\'' :: rest => some (['\''], rest)
  | '\'' :: '\'' :: '\'' :: rest => some ([], rest)
  | '\r' :: '\n' :: rest => ((scanLongLiteral rest).push '\n').push '\r'
  | char :: rest =>
    if isControl char && char != '\n' then none else (scanLongLiteral rest).push char

/-- A line end right behind the opening quotes does not count. -/
def trimFirstLine : Chars → Chars
  | '\n' :: rest => rest
  | '\r' :: '\n' :: rest => rest
  | text => text

def scanString? (text : Chars) : Scanned :=
  match text with
  | '"' :: '"' :: '"' :: rest => scanLongBasic false (trimFirstLine rest)
  | '"' :: rest => scanBasic rest
  | '\'' :: '\'' :: '\'' :: rest => scanLongLiteral (trimFirstLine rest)
  | '\'' :: rest => scanLiteral rest
  | _ => none

def digits? (isDigit : Char → Bool) : Chars → Option Chars
  | [] => none
  | [digit] => if isDigit digit then some [digit] else none
  | digit :: '_' :: rest => if isDigit digit then (digits? isDigit rest).map (digit :: ·) else none
  | digit :: rest => if isDigit digit then (digits? isDigit rest).map (digit :: ·) else none

def numberOf (base : Nat) (digits : Chars) : Nat :=
  digits.foldl (fun value char => value * base + (hexDigit? char).getD 0) 0

def decimal? (text : Chars) : Option Nat := do
  let digits ← digits? Char.isDigit text
  match digits with
  | '0' :: _ :: _ => none
  | digits => some (numberOf 10 digits)

def splitSign (text : Chars) : Option Char × Chars :=
  match text with
  | '+' :: rest => (some '+', rest)
  | '-' :: rest => (some '-', rest)
  | _ => (none, text)

/-- The integers that can be told: those of 128 bits, with a sign or without. -/
def inRange (value : Int) : Bool :=
  -170141183460469231731687303715884105728 ≤ value &&
    value ≤ 340282366920938463463374607431768211455

def integer? (word : Chars) : Option Int :=
  let based (base : Nat) (isDigit : Char → Bool) (text : Chars) : Option Int :=
    (digits? isDigit text).map (fun digits => (numberOf base digits : Int))
  match word with
  | '0' :: 'x' :: rest => based 16 (fun char => (hexDigit? char).isSome) rest
  | '0' :: 'o' :: rest => based 8 (fun char => '0' ≤ char && char ≤ '7') rest
  | '0' :: 'b' :: rest => based 2 (fun char => char == '0' || char == '1') rest
  | _ =>
    let (sign, digits) := splitSign word
    (decimal? digits).map (fun value => if sign = some '-' then -(value : Int) else (value : Int))

def exponent? (text : Chars) : Option Int :=
  match text with
  | [] => some 0
  | letter :: rest => do
    let (sign, digits) := splitSign rest
    let value := numberOf 10 (← digits? Char.isDigit digits)
    if letter = 'e' ∨ letter = 'E' then
      some (if sign = some '-' then -(value : Int) else value)
    else none

/-- A number with a fraction or an exponent: its digits without the point, and
the power of ten of the last of them. -/
def decimalParts? (text : Chars) : Option (Nat × Int) := do
  let isNumeral (char : Char) : Bool := char.isDigit || char == '_'
  let whole ← decimal? (text.takeWhile isNumeral)
  match text.dropWhile isNumeral with
  | [] => none
  | '.' :: rest =>
    let fraction ← digits? Char.isDigit (rest.takeWhile isNumeral)
    let exponent ← exponent? (rest.dropWhile isNumeral)
    some (whole * Nat.pow 10 fraction.length + numberOf 10 fraction, exponent - fraction.length)
  | rest => (exponent? rest).map (whole, ·)

/-- The nearest number of 64 bits is finite. A number below the first bound is
finite, one from the second on is not. -/
def isFinite (digits : Nat) (power : Int) : Bool :=
  let magnitude : Int := power + (Nat.toDigits 10 digits).length
  digits == 0 || magnitude ≤ 300 ||
    (magnitude ≤ 310 &&
      (Binary64.ofRatio? false (digits * Nat.pow 10 power.toNat)
        (Nat.pow 10 (-power).toNat)).isSome)

def isFloat (word : Chars) : Bool :=
  let (_, text) := splitSign word
  text == ['i', 'n', 'f'] || text == ['n', 'a', 'n'] ||
    (match decimalParts? text with
      | some (digits, power) => isFinite digits power
      | none => false)

def takeNumber? (width : Nat) (text : Chars) : Option (Nat × Chars) :=
  let digits := text.take width
  if digits.length = width ∧ digits.all Char.isDigit then
    some (numberOf 10 digits, text.drop width)
  else none

def takeMark? (mark : Char) (text : Chars) : Option Chars :=
  match text with
  | char :: rest => if char = mark then some rest else none
  | [] => none

def daysIn (year month : Nat) : Nat :=
  if month = 2 then
    if year % 4 = 0 ∧ (year % 100 ≠ 0 ∨ year % 400 = 0) then 29 else 28
  else if month = 4 ∨ month = 6 ∨ month = 9 ∨ month = 11 then 30
  else 31

def takeDate? (text : Chars) : Option Chars := do
  let (year, rest) ← takeNumber? 4 text
  let (month, rest) ← takeNumber? 2 (← takeMark? '-' rest)
  let (day, rest) ← takeNumber? 2 (← takeMark? '-' rest)
  if 1 ≤ month ∧ month ≤ 12 ∧ 1 ≤ day ∧ day ≤ daysIn year month then some rest else none

/-- A time of day; the seconds may be left out, and with them their fraction. -/
def takeTime? (text : Chars) : Option Chars := do
  let (hour, rest) ← takeNumber? 2 text
  let (minute, rest) ← takeNumber? 2 (← takeMark? ':' rest)
  if hour ≤ 23 ∧ minute ≤ 59 then
    match rest with
    | ':' :: rest =>
      let (second, rest) ← takeNumber? 2 rest
      if 60 < second then none
      else
        match rest with
        | '.' :: fraction =>
          if (fraction.takeWhile Char.isDigit).isEmpty then none
          else some (fraction.dropWhile Char.isDigit)
        | _ => some rest
    | _ => some rest
  else none

def isOffset (text : Chars) : Bool :=
  match text with
  | [] => true
  | ['Z'] => true
  | ['z'] => true
  | sign :: rest =>
    (sign == '+' || sign == '-') &&
      (match takeNumber? 2 rest with
        | some (hours, ':' :: rest) =>
          (match takeNumber? 2 rest with
            | some (minutes, []) => hours ≤ 23 && minutes ≤ 59
            | _ => false)
        | _ => false)

def isMoment (word : Chars) : Bool :=
  match takeDate? word with
  | some [] => true
  | some (mark :: rest) =>
    (mark == 'T' || mark == 't' || mark == ' ') &&
      (match takeTime? rest with
        | some rest => isOffset rest
        | none => false)
  | none => takeTime? word == some []

def isWordChar (char : Char) : Bool :=
  char.isAlphanum || char == '+' || char == '-' || char == '.' || char == '_' || char == ':'

/-- A word and the text behind it; one space may part a date from a time. -/
def takeWord (text : Chars) : Chars × Chars :=
  let word := text.takeWhile isWordChar
  let rest := text.dropWhile isWordChar
  match rest with
  | ' ' :: digit :: more =>
    if takeDate? word = some [] ∧ digit.isDigit then
      let time := (digit :: more).takeWhile isWordChar
      (word ++ ' ' :: time, (digit :: more).dropWhile isWordChar)
    else (word, rest)
  | _ => (word, rest)

end Jmap.Toml
