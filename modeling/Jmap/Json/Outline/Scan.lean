import Jmap.Json.Outline.Literal
import Jmap.Text.Utf8

/-!
From text to outline. The outline ends where the text breaks; what follows the
value of a text but white space is noted beside it.
-/

namespace Jmap.Json.Outline

def isBlank : Option Char → Bool
  | some char => char = ' ' || char = '\n' || char = '\t' || char = '\r'
  | none => false

def skipBlanks (input : Symbols) : Symbols := input.dropWhile isBlank

def scanWord (value : Outline) : List Char → Symbols → Outline × Option Symbols
  | [], rest => (value, some rest)
  | _ :: _, [] => (.broken .truncated .truncated, none)
  | letter :: letters, symbol :: rest =>
    if symbol = some letter then scanWord value letters rest
    else (.broken .malformed .malformed, none)

/-- A number that breaks off is malformed for those who skip it. -/
def numberOutline (negative : Bool) (input : Symbols) : Outline × Option Symbols :=
  match scanNumber negative input with
  | .ok (number, rest) =>
    match number.value? with
    | some (.int value) => (.int value, some rest)
    | some (.float value) => (.float value, some rest)
    | _ => (.unkeepable .null, some rest)
  | .error fault => (.broken fault .malformed, none)

def quotedOutline (input : Symbols) : Outline × Option Symbols :=
  match scanQuoted input with
  | .closed (some text) rest => (.str text, some rest)
  | .closed none rest => (.unkeepable .null, some rest)
  | .broken keeping skipping => (.broken keeping skipping, none)

/-- The deepest nesting whose content can be kept. -/
def deepest : Nat := 127

/-- A container at a depth: `levels` more may be opened and kept. -/
def atDepth (levels : Nat) (value : Outline) : Outline :=
  if levels = 0 then .unkeepable value else value

mutual

/-- A value at the front of the text, and what follows it unless the text
breaks inside. Every call has less text before it or less fuel. -/
def scanValue : (fuel levels : Nat) → Symbols → Outline × Option Symbols
  | 0, _, _ => (.broken .truncated .truncated, none)
  | fuel + 1, levels, input =>
    match input with
    | [] => (.broken .truncated .truncated, none)
    | some 'n' :: rest => scanWord .null "ull".toList rest
    | some 't' :: rest => scanWord (.bool true) "rue".toList rest
    | some 'f' :: rest => scanWord (.bool false) "alse".toList rest
    | some '"' :: rest => quotedOutline rest
    | some '-' :: rest => numberOutline true rest
    | some '[' :: rest =>
      match skipBlanks rest with
      | some ']' :: rest => (atDepth levels (.arr [] .closed), some rest)
      | rest =>
        let (items, ending, rest) := scanItems fuel (levels - 1) rest
        (atDepth levels (.arr items ending), rest)
    | some '\x7b' :: rest =>
      match skipBlanks rest with
      | some '\x7d' :: rest => (atDepth levels (.obj [] .closed), some rest)
      | rest =>
        let (members, ending, rest) := scanMembers fuel (levels - 1) rest
        (atDepth levels (.obj members ending), rest)
    | symbol :: rest =>
      if isDigit symbol then numberOutline false (symbol :: rest)
      else (.broken .malformed .malformed, none)

/-- The items from here to the closing bracket; no white space comes first. An
item that the end of the text leaves out is an item that breaks. -/
def scanItems : (fuel levels : Nat) → Symbols → List Outline × Ending × Option Symbols
  | 0, _, _ => ([.broken .truncated .truncated], .broken .malformed .malformed, none)
  | _ + 1, _, [] => ([.broken .truncated .truncated], .broken .malformed .malformed, none)
  | _ + 1, _, some ']' :: _ => ([], .broken .malformed .malformed, none)
  | fuel + 1, levels, input =>
    match scanValue fuel levels input with
    | (item, none) => ([item], .broken .malformed .malformed, none)
    | (item, some rest) =>
      match skipBlanks rest with
      | some ',' :: rest =>
        let (items, ending, rest) := scanItems fuel levels (skipBlanks rest)
        (item :: items, ending, rest)
      | some ']' :: rest => ([item], .closed, some rest)
      | [] => ([item], .broken .truncated .truncated, none)
      | _ => ([item], .broken .malformed .malformed, none)

def scanMembers :
    (fuel levels : Nat) → Symbols → List (Option String × Outline) × Ending × Option Symbols
  | 0, _, _ => ([], .broken .truncated .truncated, none)
  | _ + 1, _, [] => ([], .broken .truncated .truncated, none)
  | fuel + 1, levels, some '"' :: rest =>
    match scanQuoted rest with
    | .broken keeping skipping => ([], .broken keeping skipping, none)
    | .closed key rest =>
      match skipBlanks rest with
      | [] => ([(key, .broken .truncated .truncated)], .broken .truncated .truncated, none)
      | some ':' :: rest =>
        match scanValue fuel levels (skipBlanks rest) with
        | (value, none) => ([(key, value)], .broken .malformed .malformed, none)
        | (value, some rest) =>
          match skipBlanks rest with
          | some ',' :: rest =>
            let (members, ending, rest) := scanMembers fuel levels (skipBlanks rest)
            ((key, value) :: members, ending, rest)
          | some '\x7d' :: rest => ([(key, value)], .closed, some rest)
          | [] => ([(key, value)], .broken .truncated .truncated, none)
          | _ => ([(key, value)], .broken .malformed .malformed, none)
      | _ => ([(key, .broken .malformed .malformed)], .broken .malformed .malformed, none)
  | _ + 1, _, _ => ([], .broken .malformed .malformed, none)

end

/-- A text: its value, and whether only white space follows. -/
structure Document where
  value : Outline
  complete : Bool
deriving Inhabited

def ofSymbols (input : Symbols) : Document :=
  let (value, rest) := scanValue (2 * input.length + 2) deepest (skipBlanks input)
  ⟨value, (rest.map (fun rest => (skipBlanks rest).isEmpty)).getD true⟩

def ofBytes (bytes : Utf8.Bytes) : Document := ofSymbols (Utf8.decode bytes)

def ofText (text : String) : Document := ofSymbols (text.toList.map some)

end Jmap.Json.Outline
