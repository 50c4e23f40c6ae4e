import Jmap.Json.Wire

/-!
Capabilities: the parts of the protocol that a request declares to use, each
known by a URN. They are ordered as listed, the core first.
-/

namespace Jmap

inductive Capability where
  | core
  | mail
  | submission
  | vacationResponse
  | blob
  | quota
  | contacts
  | calendars
deriving DecidableEq, Inhabited, Repr

namespace Capability

def all : List Capability :=
  [.core, .mail, .submission, .vacationResponse, .blob, .quota, .contacts, .calendars]

def urn : Capability → String
  | .core => "urn:ietf:params:jmap:core"
  | .mail => "urn:ietf:params:jmap:mail"
  | .submission => "urn:ietf:params:jmap:submission"
  | .vacationResponse => "urn:ietf:params:jmap:vacationresponse"
  | .blob => "urn:ietf:params:jmap:blob"
  | .quota => "urn:ietf:params:jmap:quota"
  | .contacts => "urn:ietf:params:jmap:contacts"
  | .calendars => "urn:ietf:params:jmap:calendars"

def position : Capability → Nat
  | .core => 0
  | .mail => 1
  | .submission => 2
  | .vacationResponse => 3
  | .blob => 4
  | .quota => 5
  | .contacts => 6
  | .calendars => 7

def ofUrn? (urn : String) : Option Capability := all.find? (fun capability => capability.urn == urn)

theorem mem_all (capability : Capability) : capability ∈ all := by
  cases capability <;> decide

@[simp] theorem ofUrn?_urn (capability : Capability) : ofUrn? capability.urn = some capability := by
  cases capability <;> rfl

instance : LT Capability := ⟨fun left right => left.position < right.position⟩

instance (left right : Capability) : Decidable (left < right) :=
  inferInstanceAs (Decidable (left.position < right.position))

end Capability

open Json in
instance : Wire Capability where
  read outline := do
    let urn ← Outline.readString outline
    match Capability.ofUrn? urn with
    | some capability => .ok capability
    | none => .error (.mismatch (.refused ("unknown capability '" ++ urn ++ "'")))
  write capability := .str capability.urn

end Jmap
