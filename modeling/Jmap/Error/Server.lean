import Jmap.Json.Record

namespace Jmap

open Json

structure MethodError where
  kind : String
  description : Option String := none
  properties : Option (List String) := none
deriving DecidableEq, Inhabited

namespace MethodError

abbrev slots : List Slot :=
  [.required "type" String, .optional "description" String,
    .optional "properties" (List String)]

instance : Wire MethodError :=
  .record "MethodError" slots
    (fun (kind, description, properties, ()) => { kind, description, properties })
    (fun error => (error.kind, error.description, error.properties, ()))

def message (error : MethodError) : String :=
  match error.description with
  | none => error.kind
  | some description => error.kind ++ ": " ++ description

end MethodError

/-- The refusal of one object inside a call that creates, updates or destroys. -/
structure SetError where
  kind : String
  description : Option String := none
  properties : Option (List String) := none
deriving DecidableEq, Inhabited

namespace SetError

abbrev slots : List Slot :=
  [.required "type" String, .optional "description" String,
    .optional "properties" (List String)]

instance : Wire SetError :=
  .record "SetError" slots
    (fun (kind, description, properties, ()) => { kind, description, properties })
    (fun error => (error.kind, error.description, error.properties, ()))

def message (error : SetError) : String :=
  error.kind ++
    (match error.description with
      | none => ""
      | some description => ": " ++ description) ++
    match error.properties with
    | none => ""
    | some properties => " [" ++ String.intercalate ", " properties ++ "]"

end SetError

end Jmap
