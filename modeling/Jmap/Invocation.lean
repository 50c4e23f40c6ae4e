import Jmap.Error

namespace Jmap

open Json

def Json.asDict? : Json → Option (Dict Json)
  | .obj members => some (.ofList members)
  | _ => none

structure Invocation where
  method : Method
  arguments : Dict Json
  tag : String
deriving DecidableEq

namespace Invocation

/-- Arguments are an object. -/
def ofArguments? (method : Method) (arguments : Json) (tag : String) :
    Except RequestProblem Invocation :=
  match arguments.asDict? with
  | some arguments => .ok { method, arguments, tag }
  | none => .error (.argumentsNotObject method)

def ofName? (name : String) (arguments : Json) (tag : String) :
    Except RequestProblem Invocation :=
  match Method.ofName? name with
  | some method => ofArguments? method arguments tag
  | none => .error (.unknownMethod name)

def accountId? (invocation : Invocation) : Option String :=
  (invocation.arguments.find? "accountId").bind Json.asString?

instance : Wire Invocation where
  read outline := do
    let (name, arguments, tag) ← (Wire.read outline : Read (String × Json × String))
    match ofName? name arguments tag with
    | .ok invocation => .ok invocation
    | .error problem => .error (.mismatch (.refused (JmapError.invalidRequest problem).message))
  write invocation :=
    .arr [.str invocation.method.name, .ofDict invocation.arguments, .str invocation.tag]

end Invocation

/-- Asks the server to put a part of an earlier result in the place of an
argument: what `path` finds in the response of method `name` under `resultOf`. -/
structure ResultReference where
  resultOf : String
  name : Method
  path : String
deriving DecidableEq

namespace ResultReference

abbrev slots : List Slot :=
  [.required "resultOf" String, .required "name" Method, .required "path" String]

instance : Wire ResultReference :=
  .record "ResultReference" slots
    (fun (resultOf, name, path, ()) => { resultOf, name, path })
    (fun reference => (reference.resultOf, reference.name, reference.path, ()))

end ResultReference

end Jmap
