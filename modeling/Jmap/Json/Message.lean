import Jmap.Json.Wire
import Jmap.Text.Quoted

namespace Jmap.Json

def Found.describe : Found → String
  | .null => "null"
  | .bool value => "boolean `" ++ toString value ++ "`"
  | .int value => "integer `" ++ toString value ++ "`"
  | .float value => "floating point `" ++ value.render ++ "`"
  | .str value => "string " ++ Text.quoteShown value
  | .sequence => "sequence"
  | .map => "map"

def Mismatch.message : Mismatch → String
  | .wrongType found wanted => "invalid type: " ++ found.describe ++ ", expected " ++ wanted
  | .missingMember key => "missing field `" ++ key ++ "`"
  | .repeatedMember key => "duplicate field `" ++ key ++ "`"
  | .wrongLength found wanted =>
    "invalid length " ++ toString found ++ ", expected " ++ wanted
  | .outOfRange value => "integer `" ++ toString value ++ "` out of range"
  | .badDate text => "invalid date " ++ Text.quoteShown text
  | .noVariant => "data did not match any variant"
  | .refused reason => reason

def ReadError.message : ReadError → String
  | .fault .malformed => "malformed text"
  | .fault .truncated => "text ends too early"
  | .mismatch cause => cause.message

end Jmap.Json
