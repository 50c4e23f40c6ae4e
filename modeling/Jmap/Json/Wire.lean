import Jmap.Json.Outline.Scan

/-!
Types with a JSON form. Reading walks an outline, so the first problem in the
text decides the error; writing makes a value. What a type reads it also reads
back from what it writes.
-/

namespace Jmap.Json

inductive Found where
  | null
  | bool (value : Bool)
  | int (value : Int)
  | float (value : Binary64)
  | str (value : String)
  | sequence
  | map
deriving DecidableEq

inductive Mismatch where
  | wrongType (found : Found) (wanted : String)
  | missingMember (key : String)
  | repeatedMember (key : String)
  | wrongLength (found : Nat) (wanted : String)
  | outOfRange (value : Int)
  | badDate (text : String)
  | noVariant
  /-- The type refuses a value of the right form. -/
  | refused (reason : String)
deriving DecidableEq

inductive ReadError where
  | fault (cause : Fault)
  | mismatch (cause : Mismatch)
deriving DecidableEq

inductive ReadError.Category where
  | malformed
  | truncated
  | mismatched
deriving DecidableEq, Repr

def ReadError.category : ReadError → Category
  | .fault .malformed => .malformed
  | .fault .truncated => .truncated
  | .mismatch _ => .mismatched

abbrev Read (α : Type) := Except ReadError α

def Fault.lift {α : Type} : Except Fault α → Read α
  | .ok value => .ok value
  | .error fault => .error (.fault fault)

class Wire (α : Type) where
  read : Outline → Read α
  write : α → Json

def read? (α : Type) [Wire α] (value : Json) : Read α := Wire.read (.ofJson value)

def Outline.Document.read (α : Type) [Wire α] (document : Outline.Document) : Read α :=
  match Wire.read document.value with
  | .error error => .error error
  | .ok value => if document.complete then .ok value else .error (.fault .malformed)

namespace Outline

/-- The error of a reader who wants something else. A scalar is read before it
is refused, a container is refused at its opening bracket. -/
def unwanted (wanted : String) (outline : Outline) : ReadError :=
  let wrong (found : Found) : ReadError := .mismatch (.wrongType found wanted)
  match outline with
  | .null => wrong .null
  | .bool value => wrong (.bool value)
  | .int value => wrong (.int value)
  | .float value => wrong (.float value)
  | .str value => wrong (.str value)
  | .arr _ _ => wrong .sequence
  | .obj _ _ => wrong .map
  | .broken keeping _ => .fault keeping
  | .unkeepable _ => .fault .malformed

def readString : Outline → Read String
  | .str value => .ok value
  | outline => .error (outline.unwanted "a string")

def readBool : Outline → Read Bool
  | .bool value => .ok value
  | outline => .error (outline.unwanted "a boolean")

def readNat (bound : Nat) (wanted : String) : Outline → Read Nat
  | .int value =>
    if 0 ≤ value ∧ value < bound then .ok value.toNat
    else .error (.mismatch (.outOfRange value))
  | outline => .error (outline.unwanted wanted)

def readOption {α : Type} (read : Outline → Read α) : Outline → Read (Option α)
  | .null => .ok none
  | outline => (read outline).map some

def readEach {α : Type} (read : Outline → Read α) : List Outline → Read (List α)
  | [] => .ok []
  | item :: items => do
    let value ← read item
    let values ← readEach read items
    .ok (value :: values)

def readList {α : Type} (read : Outline → Read α) : Outline → Read (List α)
  | .arr items ending => do
    let values ← readEach read items
    Fault.lift ending.check
    .ok values
  | outline => .error (outline.unwanted "a sequence")

/-- Members added to those before them; of two with one key the last counts. -/
def readEntries {α : Type} (read : Outline → Read α) :
    List (Option String × Outline) → Dict α → Read (Dict α)
  | [], made => .ok made
  | (none, _) :: _, _ => .error (.fault .malformed)
  | (some key, value) :: members, made => do
    let value ← read value
    readEntries read members (made.insert key value)

def readDict {α : Type} (read : Outline → Read α) : Outline → Read (Dict α)
  | .obj members ending => do
    let dict ← readEntries read members .empty
    Fault.lift ending.check
    .ok dict
  | outline => .error (outline.unwanted "a map")

end Outline

instance : Wire Json where
  read outline := Fault.lift outline.keep
  write value := value

instance : Wire String where
  read := Outline.readString
  write := .str

instance : Wire Bool where
  read := Outline.readBool
  write := .bool

instance : Wire UInt64 where
  read outline := (Outline.readNat UInt64.size "u64" outline).map UInt64.ofNat
  write value := .int value.toNat

instance : Wire UInt32 where
  read outline := (Outline.readNat UInt32.size "u32" outline).map UInt32.ofNat
  write value := .int value.toNat

instance {α : Type} [Wire α] : Wire (Option α) where
  read := Outline.readOption Wire.read
  write
    | none => .null
    | some value => Wire.write value

instance {α : Type} [Wire α] : Wire (List α) where
  read := Outline.readList Wire.read
  write values := .arr (values.map Wire.write)

instance {α : Type} [Wire α] : Wire (Dict α) where
  read := Outline.readDict Wire.read
  write dict := .ofDict (dict.map Wire.write)

/-- A pair of three: an array of exactly that many items. -/
instance {α β γ : Type} [Wire α] [Wire β] [Wire γ] : Wire (α × β × γ) where
  read outline :=
    let wanted := "a tuple of size 3"
    match outline with
    | .arr items ending =>
      let short (count : Nat) : ReadError :=
        match ending with
        | .broken keeping _ => .fault keeping
        | _ => .mismatch (.wrongLength count wanted)
      match items with
      | [] => .error (short 0)
      | first :: items => do
        let first ← Wire.read first
        match items with
        | [] => .error (short 1)
        | second :: items =>
          let second ← Wire.read second
          match items with
          | [] => .error (short 2)
          | third :: items =>
            let third ← Wire.read third
            match items, ending with
            | [], _ => do
              Fault.lift ending.check
              .ok (first, second, third)
            | _ :: _, .lax => .ok (first, second, third)
            | _ :: rest, .held =>
              .error (.mismatch (.wrongLength (rest.length + 4) "fewer elements in array"))
            | _ :: _, _ => .error (.fault .malformed)
    | outline => .error (outline.unwanted wanted)
  write value := .arr [Wire.write value.1, Wire.write value.2.1, Wire.write value.2.2]

end Jmap.Json
