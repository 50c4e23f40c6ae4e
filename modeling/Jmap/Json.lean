import Jmap.Binary64
import Jmap.Dict

/-!
JSON values. A number is an integer when it is written without fraction and
exponent and fits 64 bits, signed or unsigned; any other is a binary floating
point number. The members of an object stand in increasing key order in every
value this library makes (`Json.Canonical`), so equal objects are equal values.
-/

namespace Jmap

inductive Json where
  | null
  | bool (value : Bool)
  | int (value : Int)
  | float (value : Binary64)
  | str (value : String)
  | arr (items : List Json)
  | obj (members : List (String × Json))
deriving Inhabited

namespace Json

mutual

def decideEq : (left right : Json) → Decidable (left = right)
  | .null, .null => isTrue rfl
  | .bool left, .bool right =>
    if same : left = right then isTrue (congrArg _ same) else isFalse (by simpa using same)
  | .int left, .int right =>
    if same : left = right then isTrue (congrArg _ same) else isFalse (by simpa using same)
  | .float left, .float right =>
    if same : left = right then isTrue (congrArg _ same) else isFalse (by simpa using same)
  | .str left, .str right =>
    if same : left = right then isTrue (congrArg _ same) else isFalse (by simpa using same)
  | .arr left, .arr right =>
    match decideItemsEq left right with
    | isTrue same => isTrue (congrArg _ same)
    | isFalse different => isFalse (by simpa using different)
  | .obj left, .obj right =>
    match decideMembersEq left right with
    | isTrue same => isTrue (congrArg _ same)
    | isFalse different => isFalse (by simpa using different)
  | .null, .bool _ | .null, .int _ | .null, .float _ | .null, .str _ | .null, .arr _
  | .null, .obj _ | .bool _, .null | .bool _, .int _ | .bool _, .float _ | .bool _, .str _
  | .bool _, .arr _ | .bool _, .obj _ | .int _, .null | .int _, .bool _ | .int _, .float _
  | .int _, .str _ | .int _, .arr _ | .int _, .obj _ | .float _, .null | .float _, .bool _
  | .float _, .int _ | .float _, .str _ | .float _, .arr _ | .float _, .obj _ | .str _, .null
  | .str _, .bool _ | .str _, .int _ | .str _, .float _ | .str _, .arr _ | .str _, .obj _
  | .arr _, .null | .arr _, .bool _ | .arr _, .int _ | .arr _, .float _ | .arr _, .str _
  | .arr _, .obj _ | .obj _, .null | .obj _, .bool _ | .obj _, .int _ | .obj _, .float _
  | .obj _, .str _ | .obj _, .arr _ => isFalse (by simp)

def decideItemsEq : (left right : List Json) → Decidable (left = right)
  | [], [] => isTrue rfl
  | [], _ :: _ => isFalse (by simp)
  | _ :: _, [] => isFalse (by simp)
  | left :: lefts, right :: rights =>
    match decideEq left right, decideItemsEq lefts rights with
    | isTrue head, isTrue tail => isTrue (by rw [head, tail])
    | isFalse different, _ => isFalse (fun same => different (List.cons.inj same).1)
    | _, isFalse different => isFalse (fun same => different (List.cons.inj same).2)

def decideMembersEq : (left right : List (String × Json)) → Decidable (left = right)
  | [], [] => isTrue rfl
  | [], _ :: _ => isFalse (by simp)
  | _ :: _, [] => isFalse (by simp)
  | (leftKey, left) :: lefts, (rightKey, right) :: rights =>
    if sameKey : leftKey = rightKey then
      match decideEq left right, decideMembersEq lefts rights with
      | isTrue head, isTrue tail => isTrue (by rw [sameKey, head, tail])
      | isFalse different, _ =>
        isFalse (fun same => different (congrArg Prod.snd (List.cons.inj same).1))
      | _, isFalse different => isFalse (fun same => different (List.cons.inj same).2)
    else isFalse (fun same => sameKey (congrArg Prod.fst (List.cons.inj same).1))

end

instance : DecidableEq Json := decideEq

/-- The object with given members; of two with one key the last counts. -/
def ofMembers (members : List (String × Json)) : Json := .obj (Entries.ofList members)

def ofDict (dict : Dict Json) : Json := .obj dict.entries

def asString? : Json → Option String
  | .str value => some value
  | _ => none

def isObject : Json → Bool
  | .obj _ => true
  | _ => false

def get? (value : Json) (key : String) : Option Json :=
  match value with
  | .obj members => Entries.find? key members
  | _ => none

mutual

/-- Every object inside has its members in increasing key order, and every
integer fits 64 bits. -/
def Canonical : Json → Prop
  | .null | .bool _ | .float _ | .str _ => True
  | .int value => -9223372036854775808 ≤ value ∧ value < 18446744073709551616
  | .arr items => CanonicalItems items
  | .obj members => Entries.Sorted members ∧ CanonicalMembers members

def CanonicalItems : List Json → Prop
  | [] => True
  | item :: items => Canonical item ∧ CanonicalItems items

def CanonicalMembers : List (String × Json) → Prop
  | [] => True
  | (_, value) :: members => Canonical value ∧ CanonicalMembers members

end

end Json

end Jmap
