/-!
Sets and maps of code points, told as text: numbers are hexadecimal, and words
stand between blanks. A set is a list of ranges. A map is a list of rules, each
for one code or for a range of them; every code of its set has at most one rule.
-/

namespace Jmap.Text

def splitWords (isGap : Char → Bool) (text : List Char) : List (List Char) :=
  let add (char : Char) (words : List (List Char)) : List (List Char) :=
    if isGap char then [] :: words
    else
      match words with
      | [] => [[char]]
      | word :: words => (char :: word) :: words
  (text.foldr add [[]]).filter (!·.isEmpty)

def isGap (char : Char) : Bool := char == ' ' || char == '\n'

def isCodeDigit (char : Char) : Bool := char.isDigit || ('A' ≤ char && char ≤ 'F')

def codeOf (digits : List Char) : Nat :=
  digits.foldl
    (fun code char => code * 16 + if char.isDigit then char.toNat - 48 else char.toNat - 55) 0

structure CodeRange where
  first : Nat
  last : Nat
deriving DecidableEq, Repr

namespace CodeRange

def contains (range : CodeRange) (code : Nat) : Bool := range.first ≤ code && code ≤ range.last

def ofWord (word : List Char) : CodeRange :=
  let first := codeOf (word.takeWhile isCodeDigit)
  match word.dropWhile isCodeDigit with
  | [] => ⟨first, first⟩
  | _ :: digits => ⟨first, codeOf digits⟩

end CodeRange

abbrev CodeSet := List CodeRange

namespace CodeSet

/-- Ranges are written `A-B`, and single codes `A`. -/
def ofText (text : String) : CodeSet := (splitWords isGap text.toList).map .ofWord

def contains (set : CodeSet) (code : Nat) : Bool := set.any (·.contains code)

end CodeSet

structure CodeRule where
  range : CodeRange
  /-- Only codes at multiples of this distance from the first have the rule. -/
  step : Nat
  target : List Nat
  /-- Another code becomes a target as far from this one as it is from the first;
  if it does not move, all codes become the same. -/
  moves : Bool
deriving DecidableEq, Repr

namespace CodeRule

def image? (rule : CodeRule) (code : Nat) : Option (List Nat) :=
  let distance := code - rule.range.first
  if rule.range.contains code ∧ distance % rule.step = 0 then
    some (if rule.moves then rule.target.map (· + distance) else rule.target)
  else none

/-- `A:T` is a rule for one code and `T` one for the code `next`; `A-B:T` is a
rule for a range, `A/B:T` one for every other code of it, and `A-B=T` one that
does not move. The codes of a target stand between points. -/
def ofWord (next : Nat) (word : List Char) : CodeRule :=
  let isMark (char : Char) : Bool := char == ':' || char == '='
  let source := word.takeWhile (!isMark ·)
  let codes (target : List Char) : List Nat := (splitWords (· == '.') target).map codeOf
  match word.dropWhile (!isMark ·) with
  | [] => ⟨⟨next, next⟩, 1, codes word, false⟩
  | mark :: target =>
    ⟨.ofWord source, if source.contains '/' then 2 else 1, codes target, mark == ':'⟩

end CodeRule

abbrev CodeMap := List CodeRule

namespace CodeMap

/-- Rules one after the other; a rule without a source is for the next code. -/
def ofWords (next : Nat) : List (List Char) → CodeMap
  | [] => []
  | word :: words =>
    let rule := CodeRule.ofWord next word
    rule :: ofWords (rule.range.last + 1) words

def ofText (text : String) : CodeMap := ofWords 0 (splitWords isGap text.toList)

def find? (map : CodeMap) (code : Nat) : Option (List Nat) := map.findSome? (·.image? code)

def source? (map : CodeMap) (target : List Nat) : Option Nat :=
  (map.filter (·.target == target)).head?.map (·.range.first)

end CodeMap

end Jmap.Text
