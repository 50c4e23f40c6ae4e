/-!
Text as bytes. Decoding never fails: a byte that begins no well-formed sequence
stands as `none` among the characters, and decoding goes on behind it.
-/

namespace Jmap.Utf8

abbrev Bytes := List UInt8

def encode (text : String) : Bytes := text.toUTF8.toList

def continuation? (byte : UInt8) : Option Nat :=
  if 0x80 ≤ byte ∧ byte < 0xC0 then some (byte.toNat - 0x80) else none

/-- The character of a code that needs at least the given width. -/
def scalar? (least code : Nat) : Option Char :=
  if least ≤ code ∧ code.isValidChar then some (Char.ofNat code) else none

def front? : Bytes → Option (Char × Nat)
  | [] => none
  | first :: rest =>
    let lead := first.toNat
    if lead < 0x80 then some (Char.ofNat lead, 1)
    else if lead < 0xC0 then none
    else
      match rest.map continuation? with
      | some second :: others =>
        if lead < 0xE0 then
          (scalar? 0x80 ((lead - 0xC0) * 64 + second)).map (·, 2)
        else
          match others with
          | some third :: others =>
            if lead < 0xF0 then
              (scalar? 0x800 ((lead - 0xE0) * 4096 + second * 64 + third)).map (·, 3)
            else
              match others with
              | some fourth :: _ =>
                (scalar? 0x10000
                  ((lead - 0xF0) * 262144 + second * 4096 + third * 64 + fourth)).map (·, 4)
              | _ => none
          | _ => none
      | _ => none

/-- Characters behind the next `skip` bytes. -/
def decodeFrom (skip : Nat) : Bytes → List (Option Char)
  | [] => []
  | byte :: rest =>
    match skip with
    | skip + 1 => decodeFrom skip rest
    | 0 =>
      match front? (byte :: rest) with
      | some (char, width) => some char :: decodeFrom (width - 1) rest
      | none => none :: decodeFrom 0 rest

def decode (bytes : Bytes) : List (Option Char) := decodeFrom 0 bytes

def decode? (bytes : Bytes) : Option String :=
  ((decode bytes).mapM id).map String.ofList

def secondRange (lead : UInt8) : UInt8 × UInt8 :=
  if lead = 0xE0 then (0xA0, 0xBF)
  else if lead = 0xED then (0x80, 0x9F)
  else if lead = 0xF0 then (0x90, 0xBF)
  else if lead = 0xF4 then (0x80, 0x8F)
  else (0x80, 0xBF)

/-- How many bytes at the front begin a sequence that is broken off behind them. At
least one byte counts. -/
def brokenWidth : Bytes → Nat
  | lead :: second :: rest =>
    let (least, greatest) := secondRange lead
    if 0xE0 ≤ lead ∧ lead ≤ 0xF4 ∧ least ≤ second ∧ second ≤ greatest then
      match rest with
      | third :: _ => if 0xF0 ≤ lead ∧ (continuation? third).isSome then 3 else 2
      | [] => 2
    else 1
  | _ => 1

/-- Characters behind the next `skip` bytes, with one sign for each broken sequence. -/
def shownFrom (skip : Nat) : Bytes → List Char
  | [] => []
  | byte :: rest =>
    match skip with
    | skip + 1 => shownFrom skip rest
    | 0 =>
      match front? (byte :: rest) with
      | some (char, width) => char :: shownFrom (width - 1) rest
      | none => '\uFFFD' :: shownFrom (brokenWidth (byte :: rest) - 1) rest

def shown (bytes : Bytes) : String := String.ofList (shownFrom 0 bytes)

end Jmap.Utf8
