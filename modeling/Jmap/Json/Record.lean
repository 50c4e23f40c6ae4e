import Jmap.Json.Wire

/-!
Records: objects with named members. A record is described once, by the list of
its slots, and read and written by that description. An object may name its
members in any order, and members of no slot are skipped; an array gives them in
the order of the slots.
-/

namespace Jmap.Json

structure Slot where
  Value : Type
  key : String
  read : Outline → Read Value
  /-- A member written as `none` is left out. -/
  write : Value → Option Json
  /-- The value in an object that does not name the member, if it need not. -/
  absent : Option Value
  /-- The value in an array that ends before the member, if it may. -/
  trailing : Option Value

namespace Slot

@[reducible] def required (key : String) (α : Type) [Wire α] : Slot where
  Value := α
  key := key
  read := Wire.read
  write value := some (Wire.write value)
  absent := none
  trailing := none

@[reducible] def defaulted (key : String) (α : Type) [Wire α] (default : α) : Slot where
  Value := α
  key := key
  read := Wire.read
  write value := some (Wire.write value)
  absent := some default
  trailing := some default

/-- A member that is null in its absence. -/
@[reducible] def nullable (key : String) (α : Type) [Wire α] : Slot :=
  defaulted key (Option α) none

@[reducible] def optional (key : String) (α : Type) [Wire α] : Slot where
  Value := Option α
  key := key
  read := Wire.read
  write value := value.map Wire.write
  absent := some none
  trailing := some none

/-- A member that is left out where it has no value, but not of an array. -/
@[reducible] def optionalByName (key : String) (α : Type) [Wire α] : Slot :=
  { optional key α with trailing := none }

@[reducible] def omittedIfEmpty (key : String) (α : Type) [Wire α] : Slot where
  Value := Dict α
  key := key
  read := Wire.read
  write dict := if dict.isEmpty then none else some (Wire.write dict)
  absent := some .empty
  trailing := some .empty

end Slot

@[reducible] def Row : List Slot → Type
  | [] => Unit
  | slot :: slots => slot.Value × Row slots

/-- The values of those slots that have been met. -/
@[reducible] def PartialRow : List Slot → Type
  | [] => Unit
  | slot :: slots => Option slot.Value × PartialRow slots

namespace PartialRow

def empty : (slots : List Slot) → PartialRow slots
  | [] => ()
  | _ :: slots => (none, empty slots)

/-- Reads a member into its slot; `none` if no slot has its key. A slot that is
filled already is not read again. -/
def place? (key : String) (value : Outline) :
    (slots : List Slot) → PartialRow slots → Option (Read (PartialRow slots))
  | [], _ => none
  | slot :: slots, (found, others) =>
    if slot.key = key then
      some (match found with
        | some _ => .error (.mismatch (.repeatedMember key))
        | none => (slot.read value).map (fun value => (some value, others)))
    else (place? key value slots others).map (fun read => read.map (fun others => (found, others)))

def complete : (slots : List Slot) → PartialRow slots → Read (Row slots)
  | [], _ => .ok ()
  | slot :: slots, (found, others) =>
    match found.or slot.absent with
    | none => .error (.mismatch (.missingMember slot.key))
    | some value => (complete slots others).map (fun others => (value, others))

end PartialRow

namespace Row

def readMembers (slots : List Slot) :
    List (Option String × Outline) → PartialRow slots → Read (PartialRow slots)
  | [], made => .ok made
  | (none, _) :: _, _ => .error (.fault .malformed)
  | (some key, value) :: members, made =>
    match PartialRow.place? key value slots made with
    | some read => do readMembers slots members (← read)
    | none => do
      Fault.lift value.skip
      readMembers slots members made

/-- Items in the order of the slots, after `count` others; the items left over. -/
def readItems (wanted : String) (ending : Ending) :
    (count : Nat) → (slots : List Slot) → List Outline → Read (Row slots × List Outline)
  | _, [], items => .ok ((), items)
  | count, slot :: slots, item :: items => do
    let value ← slot.read item
    let (others, rest) ← readItems wanted ending (count + 1) slots items
    .ok ((value, others), rest)
  | count, slot :: slots, [] =>
    match ending, slot.trailing with
    | .broken keeping _, _ => .error (.fault keeping)
    | _, none => .error (.mismatch (.wrongLength count wanted))
    | _, some value => do
      let (others, rest) ← readItems wanted ending (count + 1) slots []
      .ok ((value, others), rest)

def read (name : String) (slots : List Slot) : Outline → Read (Row slots)
  | .obj members ending => do
    let made ← readMembers slots members (PartialRow.empty slots)
    Fault.lift ending.check
    PartialRow.complete slots made
  | .arr items ending => do
    let wanted := "struct " ++ name ++ " with " ++ toString slots.length ++ " elements"
    let (row, rest) ← readItems wanted ending 0 slots items
    match rest, ending with
    | [], _ =>
      Fault.lift ending.check
      .ok row
    | _ :: _, .lax => .ok row
    | _ :: _, .held => .error (.mismatch (.wrongLength items.length "fewer elements in array"))
    | _ :: _, _ => .error (.fault .malformed)
  | outline => .error (outline.unwanted ("struct " ++ name))

def members : (slots : List Slot) → Row slots → List (String × Json)
  | [], _ => []
  | slot :: slots, (value, others) =>
    match slot.write value with
    | none => members slots others
    | some written => (slot.key, written) :: members slots others

def write (slots : List Slot) (row : Row slots) : Json := .ofMembers (members slots row)

end Row

@[reducible] def Wire.record {α : Type} (name : String) (slots : List Slot)
    (ofRow : Row slots → α) (toRow : α → Row slots) : Wire α where
  read outline := (Row.read name slots outline).map ofRow
  write value := Row.write slots (toRow value)

namespace OpenRow

def readMembers (slots : List Slot) :
    List (Option String × Outline) → PartialRow slots → Dict Json →
      Read (PartialRow slots × Dict Json)
  | [], made, others => .ok (made, others)
  | (none, _) :: _, _, _ => .error (.fault .malformed)
  | (some key, value) :: members, made, others =>
    match PartialRow.place? key value slots made with
    | some read => do readMembers slots members (← read) others
    | none => do
      let value ← Fault.lift value.keep
      readMembers slots members made (others.insert key value)

/-- A record that keeps the members of no slot; it has no form as an array. -/
def read (name : String) (slots : List Slot) : Outline → Read (Row slots × Dict Json)
  | .obj members ending => do
    let (made, others) ← readMembers slots members (PartialRow.empty slots) .empty
    Fault.lift ending.check
    let row ← PartialRow.complete slots made
    .ok (row, others)
  | outline => .error (outline.unwanted ("struct " ++ name))

def write (slots : List Slot) (row : Row slots) (others : Dict Json) : Json :=
  .ofMembers (Row.members slots row ++ others.entries)

end OpenRow

@[reducible] def Wire.openRecord {α : Type} (name : String) (slots : List Slot)
    (ofRow : Row slots → Dict Json → α) (toRow : α → Row slots × Dict Json) : Wire α where
  read outline := (OpenRow.read name slots outline).map (fun (row, others) => ofRow row others)
  write value := OpenRow.write slots (toRow value).1 (toRow value).2

end Jmap.Json
