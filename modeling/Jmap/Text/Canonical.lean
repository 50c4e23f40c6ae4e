import Jmap.Text.Canonical.Decomposition
import Jmap.Text.Canonical.Order

/-!
Canonical composition of text (normal form C): characters are decomposed as far
as they can be, marks are put into the order of their classes, and what can be
composed is composed again. Texts that are the same but for the way they are
written become equal.
-/

namespace Jmap.Text.Canonical

def decompose : (depth : Nat) → Nat → List Nat
  | 0, code => [code]
  | depth + 1, code =>
    match split? code with
    | none => [code]
    | some parts => parts.flatMap (decompose depth)

/-- More steps than any character can be decomposed in. -/
def deepest : Nat := 8

/-- A character in front of an ordered text: it passes marks of lower classes. -/
def insertMark (code : Nat) : List Nat → List Nat
  | [] => [code]
  | next :: rest =>
    if classOf next ≠ 0 ∧ classOf next < classOf code then next :: insertMark code rest
    else code :: next :: rest

def orderMarks (codes : List Nat) : List Nat := codes.foldr insertMark []

/-- Composes what follows a character with it. The marks in `passed`, the last of
them first, could not be composed; a character can be only if no mark of its own
class or of a higher one stands before it. -/
def composeBehind (first : Nat) (passed : List Nat) : List Nat → List Nat
  | [] => first :: passed.reverse
  | code :: rest =>
    let reached := passed.head?.all (fun last => classOf last < classOf code)
    match if reached then join? first code else none with
    | some whole => composeBehind whole passed rest
    | none =>
      if classOf code = 0 then first :: (passed.reverse ++ composeBehind code [] rest)
      else composeBehind first (code :: passed) rest

def composeCodes : List Nat → List Nat
  | [] => []
  | code :: rest =>
    if classOf code = 0 then composeBehind code [] rest else code :: composeCodes rest

end Canonical

open Canonical in
def compose (text : List Char) : List Char :=
  let decomposed := text.flatMap (fun char => decompose deepest char.toNat)
  (composeCodes (orderMarks decomposed)).map Char.ofNat

def isComposed (text : List Char) : Bool := compose text == text

end Jmap.Text
