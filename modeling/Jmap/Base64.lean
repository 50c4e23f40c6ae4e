import Jmap.Text.Utf8

/-!
Bytes as base64 text: the standard alphabet, padded to a multiple of four
characters. Decoding accepts what encoding produces and nothing else: bits that
stand for nothing have to be zero.
-/

namespace Jmap.Base64

open Utf8 (Bytes)

def alphabet : List Char :=
  "ABCDEFGHIJKLMNOPQRSTUVWXYZabcdefghijklmnopqrstuvwxyz0123456789+/".toList

def digit (value : Nat) : Char := alphabet.getD value 'A'

def value? (char : Char) : Option Nat := alphabet.idxOf? char

def encodeChars : Bytes → List Char
  | [] => []
  | [a] =>
    let bits := a.toNat
    [digit (bits / 4), digit (bits % 4 * 16), '=', '=']
  | [a, b] =>
    let bits := a.toNat * 256 + b.toNat
    [digit (bits / 1024), digit (bits / 16 % 64), digit (bits % 16 * 4), '=']
  | a :: b :: c :: rest =>
    let bits := a.toNat * 65536 + b.toNat * 256 + c.toNat
    digit (bits / 262144) :: digit (bits / 4096 % 64) :: digit (bits / 64 % 64) ::
      digit (bits % 64) :: encodeChars rest

def decodeChars? : List Char → Option Bytes
  | [] => some []
  | [a, b, '=', '='] => do
    let bits := (← value? a) * 64 + (← value? b)
    if bits % 16 = 0 then some [UInt8.ofNat (bits / 16)] else none
  | [a, b, c, '='] => do
    let bits := (← value? a) * 4096 + (← value? b) * 64 + (← value? c)
    if bits % 4 = 0 then some [UInt8.ofNat (bits / 1024), UInt8.ofNat (bits / 4 % 256)] else none
  | a :: b :: c :: d :: rest => do
    let bits := (← value? a) * 262144 + (← value? b) * 4096 + (← value? c) * 64 + (← value? d)
    let bytes ← decodeChars? rest
    some (UInt8.ofNat (bits / 65536) :: UInt8.ofNat (bits / 256 % 256) ::
      UInt8.ofNat (bits % 256) :: bytes)
  | _ => none

def encode (bytes : Bytes) : String := String.ofList (encodeChars bytes)

def decode? (text : String) : Option Bytes := decodeChars? text.toList

end Jmap.Base64
