import Jmap.Text.Hidden

namespace Jmap.Text

def hexDigits (code : Nat) : List Char := Nat.toDigits 16 code

def escapeShown (char : Char) : List Char :=
  if char = '"' then ['\\', '"']
  else if char = '\\' then ['\\', '\\']
  else if char = '\t' then ['\\', 't']
  else if char = '\r' then ['\\', 'r']
  else if char = '\n' then ['\\', 'n']
  else if char = '\x00' then ['\\', '0']
  else if isHidden char then '\\' :: 'u' :: '\x7b' :: (hexDigits char.toNat ++ ['\x7d'])
  else [char]

def quoteShown (text : String) : String :=
  String.ofList ('"' :: (text.toList.flatMap escapeShown ++ ['"']))

end Jmap.Text
