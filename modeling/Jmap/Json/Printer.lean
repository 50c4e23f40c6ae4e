import Jmap.Json
import Jmap.Binary64.Decimal

namespace Jmap.Json

def hexDigit (value : Nat) : Char := Nat.digitChar (value % 16)

def escape (char : Char) : List Char :=
  if char = '"' then ['\\', '"']
  else if char = '\\' then ['\\', '\\']
  else if char = '\x08' then ['\\', 'b']
  else if char = '\x0c' then ['\\', 'f']
  else if char = '\n' then ['\\', 'n']
  else if char = '\r' then ['\\', 'r']
  else if char = '\t' then ['\\', 't']
  else if char.toNat < 0x20 then
    ['\\', 'u', '0', '0', hexDigit (char.toNat / 16), hexDigit char.toNat]
  else [char]

def quote (text : String) : List Char := '"' :: (text.toList.flatMap escape ++ ['"'])

mutual

def chars : Json → List Char
  | .null => "null".toList
  | .bool true => "true".toList
  | .bool false => "false".toList
  | .int value => (toString value).toList
  | .float value => value.render.toList
  | .str value => quote value
  | .arr items => '[' :: (itemChars items ++ [']'])
  | .obj members => '\x7b' :: (memberChars members ++ ['\x7d'])

def itemChars : List Json → List Char
  | [] => []
  | [item] => chars item
  | item :: items => chars item ++ ',' :: itemChars items

def memberChars : List (String × Json) → List Char
  | [] => []
  | [(key, value)] => quote key ++ ':' :: chars value
  | (key, value) :: members => quote key ++ ':' :: (chars value ++ ',' :: memberChars members)

end

def render (value : Json) : String := String.ofList (chars value)

end Jmap.Json
