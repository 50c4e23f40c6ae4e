import Jmap.Capability

/-!
The methods that a request may invoke, each owned by one capability. The server
answers some of them with a call of another method besides, under the tag of the
first: its companion.
-/

namespace Jmap

inductive Method where
  | mailboxGet
  | mailboxQuery
  | emailGet
  | emailQuery
  | emailChanges
  | emailSet
  | emailImport
  | threadGet
  | identityGet
  | submissionGet
  | submissionSet
  | vacationGet
  | vacationSet
  | quotaGet
  | blobGet
  | blobUpload
  | cardGet
  | cardQuery
  | cardSet
  | eventParse
deriving DecidableEq, Inhabited, Repr

namespace Method

def all : List Method :=
  [.mailboxGet, .mailboxQuery, .emailGet, .emailQuery, .emailChanges, .emailSet, .emailImport,
    .threadGet, .identityGet, .submissionGet, .submissionSet, .vacationGet, .vacationSet,
    .quotaGet, .blobGet, .blobUpload, .cardGet, .cardQuery, .cardSet, .eventParse]

def name : Method → String
  | .mailboxGet => "Mailbox/get"
  | .mailboxQuery => "Mailbox/query"
  | .emailGet => "Email/get"
  | .emailQuery => "Email/query"
  | .emailChanges => "Email/changes"
  | .emailSet => "Email/set"
  | .emailImport => "Email/import"
  | .threadGet => "Thread/get"
  | .identityGet => "Identity/get"
  | .submissionGet => "EmailSubmission/get"
  | .submissionSet => "EmailSubmission/set"
  | .vacationGet => "VacationResponse/get"
  | .vacationSet => "VacationResponse/set"
  | .quotaGet => "Quota/get"
  | .blobGet => "Blob/get"
  | .blobUpload => "Blob/upload"
  | .cardGet => "ContactCard/get"
  | .cardQuery => "ContactCard/query"
  | .cardSet => "ContactCard/set"
  | .eventParse => "CalendarEvent/parse"

def capability : Method → Capability
  | .mailboxGet | .mailboxQuery | .emailGet | .emailQuery | .emailChanges | .emailSet
  | .emailImport | .threadGet => .mail
  | .identityGet | .submissionGet | .submissionSet => .submission
  | .vacationGet | .vacationSet => .vacationResponse
  | .quotaGet => .quota
  | .blobGet | .blobUpload => .blob
  | .cardGet | .cardQuery | .cardSet => .contacts
  | .eventParse => .calendars

def ofName? (name : String) : Option Method := all.find? (fun method => method.name == name)

/-- Calls that the server makes on its own: what it was asked, and what it calls
besides. -/
def companionPairs : List (Method × Method) := [(.submissionSet, .emailSet)]

def companions (method : Method) : List Method :=
  (companionPairs.filter (fun pair => pair.1 == method)).map (·.2)

def isCompanionOf (method trigger : Method) : Bool := companionPairs.contains (trigger, method)

theorem mem_all (method : Method) : method ∈ all := by
  cases method <;> decide

@[simp] theorem ofName?_name (method : Method) : ofName? method.name = some method := by
  cases method <;> rfl

theorem name_injective {left right : Method} (same : left.name = right.name) : left = right := by
  have found := ofName?_name left
  rw [same, ofName?_name] at found
  exact (Option.some.inj found).symm

theorem ofName?_eq_some_iff {name : String} {method : Method} :
    ofName? name = some method ↔ method.name = name := by
  constructor
  · intro found
    simpa using List.find?_some found
  · rintro rfl
    exact ofName?_name method

/-- The name under which a server answers that a call failed. No method has it. -/
def errorName : String := "error"

theorem ofName?_errorName : ofName? errorName = none := by decide

end Method

open Json in
instance : Wire Method where
  read outline := do
    let name ← Outline.readString outline
    match Method.ofName? name with
    | some method => .ok method
    | none => .error (.mismatch (.refused ("unknown method '" ++ name ++ "'")))
  write method := .str method.name

end Jmap
