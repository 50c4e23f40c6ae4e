import Jmap.Date.Text
import Jmap.Json.Wire

namespace Jmap

open Json

instance : Wire OffsetTime where
  read outline := do
    let text ← Outline.readString outline
    match OffsetTime.ofText? text with
    | some time => .ok time
    | none => .error (.mismatch (.badDate text))
  write time := .str time.render

instance : Wire Instant where
  read outline := (Wire.read outline : Read OffsetTime).map (·.instant)
  write instant := .str instant.render

end Jmap
