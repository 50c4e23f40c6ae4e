import Jmap.Text.Canonical
import Jmap.Text.Mark
import Jmap.Text.Utf8
import Jmap.Url.Domain.Joining
import Jmap.Url.Domain.Mapping
import Jmap.Url.Punycode

/-!
Domain names as hosts of URLs. Characters are replaced by those that names have,
the text is composed, and each label between points has to be one of a name;
labels with characters outside of ASCII are written in punycode.
-/

namespace Jmap.Url.Domain

open Text

def isForbidden (char : Char) : Bool :=
  char.toNat < 0x21 || char == '\x7f' || "#%/:<>?@[\\]^|".toList.contains char

def isAscii (char : Char) : Bool := char.toNat < 0x80

/-- A label with characters outside of ASCII that a name can have: it begins with
no mark, and its joining characters can be seen. -/
def isLabel (label : List Char) : Bool :=
  !label.head?.any isMark && joinersFit [] label

/-- What a label says. A label that is in punycode already stands for one that is
not plain, and that would not be written otherwise. -/
def readLabel? (label : List Char) : Option (List Char) :=
  match label with
  | 'x' :: 'n' :: '-' :: '-' :: digits => do
    let decoded ← if label.all isAscii then Punycode.decode? digits else none
    if decoded.all isAscii ∨ ¬ decoded.all isSettled ∨ ¬ isComposed decoded then none
    else if isLabel decoded then some decoded
    else none
  | _ => if label.all isAscii ∨ isLabel label then some label else none

def writeLabel? (label : List Char) : Option (List Char) :=
  if label.all isAscii then some label
  else (Punycode.encode? label).map (['x', 'n', '-', '-'] ++ ·)

def splitLabels : List Char → List (List Char)
  | [] => [[]]
  | char :: rest =>
    if char = '.' then [] :: splitLabels rest
    else
      match splitLabels rest with
      | [] => [[char]]
      | label :: labels => (char :: label) :: labels

def toAscii? (name : List Char) : Option (List Char) := do
  let mapped := compose (← name.mapM mapChar?).flatten
  if mapped.any isForbidden then none
  else
    let labels ← (splitLabels mapped).mapM readLabel?
    if readsOneWay labels then some (['.'].intercalate (← labels.mapM writeLabel?)) else none

end Jmap.Url.Domain
