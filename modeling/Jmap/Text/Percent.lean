import Jmap.Text.Utf8

/-!
Percent encoding: a byte stands as a percent sign and two hexadecimal digits.
Which characters may stand for themselves is the caller's choice.
-/

namespace Jmap.Percent

open Utf8 (Bytes)

def upperDigit (value : Nat) : Char :=
  if value < 10 then Char.ofNat ('0'.toNat + value) else Char.ofNat ('A'.toNat + value - 10)

def encodeByte (byte : UInt8) : List Char :=
  ['%', upperDigit (byte.toNat / 16), upperDigit (byte.toNat % 16)]

def encodeChar (char : Char) : List Char :=
  (Utf8.encode (String.singleton char)).flatMap encodeByte

def encode (plain : Char → Bool) (text : List Char) : List Char :=
  text.flatMap (fun char => if plain char then [char] else encodeChar char)

/-- Letters, digits and four marks, which mean nothing in any part of a URL. -/
def isUnreserved (char : Char) : Bool :=
  char.isAlphanum || char == '-' || char == '.' || char == '_' || char == '~'

def digit? (char : Char) : Option Nat :=
  if '0' ≤ char ∧ char ≤ '9' then some (char.toNat - '0'.toNat)
  else if 'A' ≤ char ∧ char ≤ 'F' then some (char.toNat - 'A'.toNat + 10)
  else if 'a' ≤ char ∧ char ≤ 'f' then some (char.toNat - 'a'.toNat + 10)
  else none

/-- The bytes that a text stands for. A percent sign without two digits behind
it stands for itself. -/
def decode : List Char → Bytes
  | [] => []
  | [char] => Utf8.encode (String.singleton char)
  | [char, next] => Utf8.encode (String.ofList [char, next])
  | char :: high :: low :: rest =>
    match char, digit? high, digit? low with
    | '%', some high, some low => UInt8.ofNat (high * 16 + low) :: decode rest
    | _, _, _ => Utf8.encode (String.singleton char) ++ decode (high :: low :: rest)

end Jmap.Percent
