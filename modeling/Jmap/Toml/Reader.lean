import Jmap.Toml
import Jmap.Toml.Scalar

namespace Jmap.Toml

def ofWord? (word : Chars) : Option Toml :=
  if word = "true".toList then some (.boolean true)
  else if word = "false".toList then some (.boolean false)
  else
    match integer? word with
    | some value => if inRange value then some (.integer value) else none
    | none => if isFloat word then some .float else if isMoment word then some .moment else none

def isBare (char : Char) : Bool := char.isAlphanum || char == '-' || char == '_'

def scanKey? (text : Chars) : Option (String × Chars) :=
  match text with
  | '"' :: rest => (scanBasic rest).map (fun (chars, rest) => (String.ofList chars, rest))
  | '\'' :: rest => (scanLiteral rest).map (fun (chars, rest) => (String.ofList chars, rest))
  | _ =>
    let bare := text.takeWhile isBare
    if bare.isEmpty then none else some (String.ofList bare, text.dropWhile isBare)

/-- The most keys that a path has, and the deepest that brackets and braces nest. -/
def deepest : Nat := 80

/-- At most so many keys between dots; no spaces come first, and those behind
are skipped. -/
def scanKeys? : (most : Nat) → Chars → Option (List String × Chars)
  | 0, _ => none
  | most + 1, text => do
    let (key, rest) ← scanKey? text
    match skipSpaces rest with
    | '.' :: rest =>
      let (path, rest) ← scanKeys? most (skipSpaces rest)
      some (key :: path, rest)
    | rest => some ([key], rest)

def scanPath? (text : Chars) : Option (List String × Chars) := scanKeys? deepest text

def skipComment? (text : Chars) : Option Chars :=
  match text with
  | '#' :: rest =>
    let comment := rest.takeWhile (· != '\n')
    let comment := if comment.getLast? = some '\r' then comment.dropLast else comment
    if comment.any isControl then none
    else some (rest.drop comment.length)
  | _ => some text

def endLine? (text : Chars) : Option Chars := do
  match ← skipComment? (skipSpaces text) with
  | [] => some []
  | '\n' :: rest => some rest
  | '\r' :: '\n' :: rest => some rest
  | _ => none

def skipBlanks? : (fuel : Nat) → Chars → Option Chars
  | 0, _ => none
  | fuel + 1, text => do
    match ← skipComment? (skipSpaces text) with
    | '\n' :: rest => skipBlanks? fuel rest
    | '\r' :: '\n' :: rest => skipBlanks? fuel rest
    | rest => some rest

mutual

def scanValue? : (fuel levels : Nat) → Chars → Option (Toml × Chars)
  | 0, _, _ => none
  | fuel + 1, levels, text =>
    match text, levels with
    | '[' :: _, 0 => none
    | '[' :: rest, levels + 1 => do
      match ← skipBlanks? fuel rest with
      | ']' :: rest => some (.array [], rest)
      | rest =>
        let (items, rest) ← scanItems? fuel levels rest
        some (.array items, rest)
    | '\x7b' :: _, 0 => none
    | '\x7b' :: rest, levels + 1 => do
      match ← skipBlanks? fuel rest with
      | '\x7d' :: rest => some (.table .inline [], rest)
      | rest =>
        let (entries, rest) ← scanEntries? fuel levels [] rest
        some (.table .inline entries, rest)
    | '"' :: _, _ =>
      (scanString? text).map (fun (chars, rest) => (.string (String.ofList chars), rest))
    | '\'' :: _, _ =>
      (scanString? text).map (fun (chars, rest) => (.string (String.ofList chars), rest))
    | _, _ =>
      let (word, rest) := takeWord text
      (ofWord? word).map (·, rest)

/-- Items up to the closing bracket; a comma may stand before it. -/
def scanItems? : (fuel levels : Nat) → Chars → Option (List Toml × Chars)
  | 0, _, _ => none
  | fuel + 1, levels, text => do
    let (item, rest) ← scanValue? fuel levels text
    match ← skipBlanks? fuel rest with
    | ']' :: rest => some ([item], rest)
    | ',' :: rest =>
      match ← skipBlanks? fuel rest with
      | ']' :: rest => some ([item], rest)
      | rest =>
        let (items, rest) ← scanItems? fuel levels rest
        some (item :: items, rest)
    | _ => none

/-- Entries up to the closing brace, added to those before them; a comma may
stand before the brace, and line ends anywhere but inside a path. -/
def scanEntries? : (fuel levels : Nat) → Entries Toml → Chars → Option (Entries Toml × Chars)
  | 0, _, _, _ => none
  | fuel + 1, levels, made, text => do
    let (path, rest) ← scanPath? text
    let rest ← takeMark? '=' (← skipBlanks? fuel rest)
    let (value, rest) ← scanValue? fuel levels (← skipBlanks? fuel rest)
    let made ← addDotted path value made
    match ← skipBlanks? fuel rest with
    | '\x7d' :: rest => some (made, rest)
    | ',' :: rest =>
      match ← skipBlanks? fuel rest with
      | '\x7d' :: rest => some (made, rest)
      | rest => scanEntries? fuel levels made rest
    | _ => none

end

/-- What a document holds so far, and the table that its keys go to. -/
structure Draft where
  entries : Entries Toml
  current : List String

namespace Draft

def empty : Draft := ⟨[], []⟩

def enter? (draft : Draft) (change : String → Entries Toml → Option (Entries Toml))
    (path : List String) : Option Draft := do
  let key ← path.getLast?
  let entries ← update false (change key) path.dropLast draft.entries
  some ⟨entries, path⟩

def add? (draft : Draft) (path : List String) (value : Toml) : Option Draft := do
  let entries ← update false (addDotted path value) draft.current draft.entries
  some { draft with entries }

end Draft

def scanExpression? (fuel : Nat) (draft : Draft) (text : Chars) : Option (Draft × Chars) :=
  match text with
  | '[' :: '[' :: rest => do
    let (path, rest) ← scanPath? (skipSpaces rest)
    let rest ← takeMark? ']' rest
    let rest ← takeMark? ']' rest
    some (← draft.enter? openElement path, rest)
  | '[' :: rest => do
    let (path, rest) ← scanPath? (skipSpaces rest)
    let rest ← takeMark? ']' rest
    some (← draft.enter? openTable path, rest)
  | _ => do
    let (path, rest) ← scanPath? text
    let rest ← takeMark? '=' rest
    let (value, rest) ← scanValue? fuel deepest (skipSpaces rest)
    some (← draft.add? path value, rest)

def scanLines? : (fuel : Nat) → Draft → Chars → Option Draft
  | 0, _, _ => none
  | fuel + 1, draft, text =>
    match skipSpaces text with
    | [] => some draft
    | '\n' :: rest => scanLines? fuel draft rest
    | '\r' :: '\n' :: rest => scanLines? fuel draft rest
    | '#' :: rest => do scanLines? fuel draft (← endLine? ('#' :: rest))
    | rest => do
      let (draft, rest) ← scanExpression? (fuel + 1) draft rest
      scanLines? fuel draft (← endLine? rest)

def ofText? (text : String) : Option Toml := do
  let chars :=
    match text.toList with
    | '\ufeff' :: rest => rest
    | chars => chars
  let draft ← scanLines? (2 * chars.length + 2) Draft.empty chars
  some (.table .header draft.entries)

end Jmap.Toml
