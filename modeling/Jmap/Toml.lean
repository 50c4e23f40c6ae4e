import Jmap.Dict
import Jmap.Json.Outline

/-!
Values of TOML documents. A table remembers how it came about, since that
decides how it may be added to later.
-/

namespace Jmap

inductive Toml.Origin where
  /-- Between braces: it is complete. -/
  | inline
  /-- By a header of its own. -/
  | header
  /-- By the header of a table inside it. -/
  | implied
  /-- By a key with dots. -/
  | dotted
deriving DecidableEq, Repr

inductive Toml where
  | string (value : String)
  | integer (value : Int)
  | float
  | boolean (value : Bool)
  | moment
  | array (items : List Toml)
  | table (origin : Toml.Origin) (entries : List (String × Toml))
  | tables (elements : List (List (String × Toml)))

namespace Toml

open Json (Outline)

mutual

/-- What a reader of the value meets: an array is read as far as its items are
wanted, and what has no form in JSON is an object without members. -/
def outline : Toml → Outline
  | .string value => .str value
  | .integer value => .int value
  | .float => .float default
  | .boolean value => .bool value
  | .moment => .obj [] .held
  | .array items => .arr (outlineItems items) .lax
  | .table _ entries => .obj (outlineEntries entries) .held
  | .tables elements => .arr (outlineElements elements) .lax

def outlineItems : List Toml → List Outline
  | [] => []
  | item :: items => outline item :: outlineItems items

def outlineEntries : List (String × Toml) → List (Option String × Outline)
  | [] => []
  | (key, value) :: entries => (some key, outline value) :: outlineEntries entries

def outlineElements : List (List (String × Toml)) → List Outline
  | [] => []
  | element :: elements => .obj (outlineEntries element) .held :: outlineElements elements

end

/-- The last key of a path may be added to by dots if dots have made its table. -/
def mayEnter (dotted last : Bool) (origin : Origin) : Bool :=
  match origin with
  | .inline => false
  | .header => !dotted
  | .implied => !dotted || !last
  | .dotted => true

/-- Changes the table at a path, making those on the way that are missing. -/
def update (dotted : Bool) (change : Entries Toml → Option (Entries Toml)) :
    List String → Entries Toml → Option (Entries Toml)
  | [], entries => change entries
  | key :: path, entries =>
    match Entries.find? key entries with
    | none => do
      let inner ← update dotted change path []
      some (Entries.insert key (.table (if dotted then .dotted else .implied) inner) entries)
    | some (.table origin inner) => do
      if mayEnter dotted path.isEmpty origin then
        let inner ← update dotted change path inner
        some (Entries.insert key (.table origin inner) entries)
      else none
    | some (.tables elements) => do
      if dotted ∧ path.isEmpty then none
      else
        let last ← elements.getLast?
        let inner ← update dotted change path last
        some (Entries.insert key (.tables (elements.dropLast ++ [inner])) entries)
    | some _ => none

def addValue (key : String) (value : Toml) (entries : Entries Toml) : Option (Entries Toml) :=
  if (Entries.find? key entries).isSome then none else some (Entries.insert key value entries)

def addDotted (path : List String) (value : Toml) (entries : Entries Toml) :
    Option (Entries Toml) := do
  let key ← path.getLast?
  update true (addValue key value) path.dropLast entries

/-- A table by its header: new, or implied before. -/
def openTable (key : String) (entries : Entries Toml) : Option (Entries Toml) :=
  match Entries.find? key entries with
  | none => some (Entries.insert key (.table .header []) entries)
  | some (.table .implied inner) => some (Entries.insert key (.table .header inner) entries)
  | some _ => none

def openElement (key : String) (entries : Entries Toml) : Option (Entries Toml) :=
  match Entries.find? key entries with
  | none => some (Entries.insert key (.tables [[]]) entries)
  | some (.tables elements) => some (Entries.insert key (.tables (elements ++ [[]])) entries)
  | some _ => none

end Toml

end Jmap
