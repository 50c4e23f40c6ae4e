import Jmap.Json

/-!
What a reader meets on its way through a JSON text from left to right: the
values up to the first place where the text breaks, that place included. A
reader of any type walks the outline in the same order, so the first problem in
the text decides what it reports. A value already in hand is an outline that
breaks nowhere (`Outline.ofJson`).
-/

namespace Jmap.Json

inductive Fault where
  /-- The text is not JSON from some place on. -/
  | malformed
  /-- The text ends too early. -/
  | truncated
deriving DecidableEq, Repr

inductive Ending where
  /-- A closing bracket in a text. -/
  | closed
  /-- The end of a value in hand. -/
  | held
  /-- The end of a list of which no more is read than is wanted. -/
  | lax
  /-- One fault for those who keep what follows, one for those who skip it. -/
  | broken (keeping skipping : Fault)
deriving DecidableEq, Repr

def Ending.check : Ending → Except Fault Unit
  | .broken keeping _ => .error keeping
  | _ => .ok ()

def Ending.checkSkipping : Ending → Except Fault Unit
  | .broken _ skipping => .error skipping
  | _ => .ok ()

/-- A JSON text up to its first fault. A member's key is `none` if it is no text
that can be kept. -/
inductive Outline where
  | null
  | bool (value : Bool)
  | int (value : Int)
  | float (value : Binary64)
  | str (value : String)
  | arr (items : List Outline) (ending : Ending)
  | obj (members : List (Option String × Outline)) (ending : Ending)
  /-- The text breaks here: one fault for those who keep the value, one for
  those who skip it. -/
  | broken (keeping skipping : Fault)
  /-- A value that is written well but cannot be kept: a number out of range, a
  text with half a surrogate pair, a nesting too deep. -/
  | unkeepable (value : Outline)
deriving Inhabited

namespace Outline

mutual

def ofJson : Json → Outline
  | .null => .null
  | .bool value => .bool value
  | .int value => .int value
  | .float value => .float value
  | .str value => .str value
  | .arr items => .arr (ofItems items) .held
  | .obj members => .obj (ofMembers members) .held

def ofItems : List Json → List Outline
  | [] => []
  | item :: items => ofJson item :: ofItems items

def ofMembers : List (String × Json) → List (Option String × Outline)
  | [] => []
  | (key, value) :: members => (some key, ofJson value) :: ofMembers members

end

mutual

def skip : Outline → Except Fault Unit
  | .null | .bool _ | .int _ | .float _ | .str _ => .ok ()
  | .arr items ending => do skipItems items; ending.checkSkipping
  | .obj members ending => do skipMembers members; ending.checkSkipping
  | .broken _ skipping => .error skipping
  | .unkeepable value => skip value

def skipItems : List Outline → Except Fault Unit
  | [] => .ok ()
  | item :: items => do skip item; skipItems items

def skipMembers : List (Option String × Outline) → Except Fault Unit
  | [] => .ok ()
  | (_, value) :: members => do skip value; skipMembers members

end

mutual

/-- The value, kept; of two members with one key the last counts. -/
def keep : Outline → Except Fault Json
  | .null => .ok .null
  | .bool value => .ok (.bool value)
  | .int value => .ok (.int value)
  | .float value => .ok (.float value)
  | .str value => .ok (.str value)
  | .arr items ending => do
    let items ← keepItems items
    ending.check
    .ok (.arr items)
  | .obj members ending => do
    let members ← keepMembers members []
    ending.check
    .ok (.obj members)
  | .broken keeping _ => .error keeping
  | .unkeepable _ => .error .malformed

def keepItems : List Outline → Except Fault (List Json)
  | [] => .ok []
  | item :: items => do
    let item ← keep item
    let items ← keepItems items
    .ok (item :: items)

def keepMembers :
    List (Option String × Outline) → List (String × Json) → Except Fault (List (String × Json))
  | [], made => .ok made
  | (none, _) :: _, _ => .error .malformed
  | (some key, value) :: members, made => do
    let value ← keep value
    keepMembers members (Entries.insert key value made)

end

end Outline

end Jmap.Json
