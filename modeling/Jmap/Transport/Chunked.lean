import Jmap.Text.Utf8

/-!
Bodies in chunks. Each chunk has its size in front, and one of size zero ends the
body. The reader takes one byte after the other.
-/

namespace Jmap.Chunked

open Utf8 (Bytes)

inductive Place where
  | size (value : Option Nat)
  | blank (value : Nat)
  | extension (value : Nat)
  | sizeEnd (value : Nat)
  | data (left : Nat)
  | dataReturn
  | dataEnd
  | lastReturn
  | lastEnd
  | trailer
  | trailerEnd
  | finished
deriving DecidableEq, Repr

def hexDigit? (byte : UInt8) : Option Nat :=
  if 0x30 ≤ byte ∧ byte ≤ 0x39 then some (byte.toNat - 0x30)
  else if 0x41 ≤ byte ∧ byte ≤ 0x46 then some (byte.toNat - 0x41 + 10)
  else if 0x61 ≤ byte ∧ byte ≤ 0x66 then some (byte.toNat - 0x61 + 10)
  else none

/-- Sizes are words of 64 bits. -/
def mostSize : Nat := 18446744073709551615

def afterSize? (value : Nat) (byte : UInt8) : Option Place :=
  if byte = 0x20 ∨ byte = 0x09 then some (.blank value)
  else if byte = 0x3B then some (.extension value)
  else if byte = 0x0D then some (.sizeEnd value)
  else none

def expect? (wanted byte : UInt8) (next : Place) : Option Place :=
  if byte = wanted then some next else none

def Place.next? (place : Place) (byte : UInt8) : Option Place :=
  match place with
  | .size value =>
    match hexDigit? byte with
    | some digit =>
      let more := (value.getD 0) * 16 + digit
      if more ≤ mostSize then some (.size (some more)) else none
    | none => value.bind (afterSize? · byte)
  | .blank value => afterSize? value byte
  | .extension value =>
    if byte = 0x0D then some (.sizeEnd value)
    else if byte = 0x0A then none
    else some (.extension value)
  | .sizeEnd 0 => expect? 0x0A byte .lastReturn
  | .sizeEnd value => expect? 0x0A byte (.data value)
  | .data left => some (if left ≤ 1 then .dataReturn else .data (left - 1))
  | .dataReturn => expect? 0x0D byte .dataEnd
  | .dataEnd => expect? 0x0A byte (.size none)
  | .lastReturn => some (if byte = 0x0D then .lastEnd else .trailer)
  | .lastEnd => expect? 0x0A byte .finished
  | .trailer => some (if byte = 0x0D then .trailerEnd else .trailer)
  | .trailerEnd => expect? 0x0A byte .lastReturn
  | .finished => some .finished

def Place.isData : Place → Bool
  | .data _ => true
  | _ => false

/-- The content from a place on, and whether the body comes to its end. -/
def readFrom (place : Place) : Bytes → Bytes × Bool
  | [] => ([], decide (place = .finished))
  | byte :: rest =>
    match place.next? byte with
    | none => ([], false)
    | some next =>
      let (content, complete) := readFrom next rest
      (if place.isData then byte :: content else content, complete)

def read (bytes : Bytes) : Bytes × Bool := readFrom (.size none) bytes

end Jmap.Chunked
