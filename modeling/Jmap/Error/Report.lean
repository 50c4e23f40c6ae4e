import Jmap.Error

namespace Jmap

open Json

def Json.ReadError.Category.name : ReadError.Category → String
  | .malformed => "syntax"
  | .truncated => "eof"
  | .mismatched => "data"

/-- The text of a refused value is this library's own; all other texts depend on how
the reader words them and are left out. -/
def Json.ReadError.toJson (error : ReadError) : Json :=
  .ofMembers ([("error", .str "Json"), ("category", .str error.category.name)] ++
    match error with
    | .mismatch (.refused reason) => [("message", .str reason)]
    | _ => [])

def HttpError.statusJson (error : HttpError) : Json :=
  match error.status with
  | some status => .int status.toNat
  | none => .null

def HttpError.toJson (error : HttpError) : Json :=
  .ofMembers [("error", .str error.kind.name), ("status", error.statusJson),
    ("message", .str error.message)]

def JmapError.details : JmapError → List (String × Json)
  | .transport error => [("status", error.statusJson)]
  | .decodingResponse error => [("category", .str error.category.name)]
  | .invalidResponse problem =>
    [("cause",
      match problem.cause? with
      | some error => .str error.category.name
      | none => .null)]
  | .method error => [("method_error", Wire.write error)]
  | .set objectType id error =>
    [("object_type", .str objectType), ("id", .str id), ("set_error", Wire.write error)]
  | _ => []

/-- A response that is not JSON is reported without a text. -/
def JmapError.toJson (error : JmapError) : Json :=
  .ofMembers ([("error", .str error.code.name), ("class", .str error.errorClass.name)] ++
    (match error with
      | .decodingResponse _ => []
      | _ => [("message", .str error.message)]) ++
    error.details)

def outcomeJson {α : Type} (encode : α → Json) : Except JmapError α → Json
  | .ok value => .ofMembers [("ok", encode value)]
  | .error error => error.toJson

end Jmap
