import Jmap.Error
import Jmap.Object.Blob
import Jmap.Object.Card
import Jmap.Object.Email
import Jmap.Object.Filter
import Jmap.Object.Mailbox
import Jmap.Object.Quota
import Jmap.Object.Submission

namespace Jmap

open Json

structure State where
  text : String := ""
deriving DecidableEq, Inhabited

instance : Wire State where
  read outline := (Outline.readString outline).map State.mk
  write state := .str state.text

structure SessionState where
  text : String := ""
deriving DecidableEq, Inhabited

instance : Wire SessionState where
  read outline := (Outline.readString outline).map SessionState.mk
  write state := .str state.text

structure GetResult (α : Type) where
  accountId : String
  state : State
  list : List α
  notFound : List String
deriving DecidableEq, Inhabited

namespace GetResult

variable {α : Type} [Wire α]

variable (α) in
abbrev slots : List Slot :=
  [.required "accountId" String, .defaulted "state" State {}, .defaulted "list" (List α) [],
    .defaulted "notFound" (List String) []]

instance : Wire (GetResult α) :=
  .record "GetResponse" (slots α)
    (fun (accountId, state, list, notFound, ()) => { accountId, state, list, notFound })
    (fun result => (result.accountId, result.state, result.list, result.notFound, ()))

end GetResult

structure QueryResult where
  accountId : String
  queryState : State
  canCalculateChanges : Bool
  position : UInt64
  ids : List String
  total : Option UInt64
  limit : Option UInt64
deriving DecidableEq, Inhabited

namespace QueryResult

abbrev slots : List Slot :=
  [.required "accountId" String, .defaulted "queryState" State {},
    .defaulted "canCalculateChanges" Bool false, .defaulted "position" UInt64 0,
    .defaulted "ids" (List String) [], .nullable "total" UInt64, .nullable "limit" UInt64]

instance : Wire QueryResult :=
  .record "QueryResponse" slots
    (fun (accountId, queryState, canCalculateChanges, position, ids, total, limit, ()) =>
      { accountId, queryState, canCalculateChanges, position, ids, total, limit })
    (fun result =>
      (result.accountId, result.queryState, result.canCalculateChanges, result.position,
        result.ids, result.total, result.limit, ()))

end QueryResult

structure ChangesResult where
  accountId : String
  oldState : State
  newState : State
  hasMoreChanges : Bool
  created : List String
  updated : List String
  destroyed : List String
deriving DecidableEq, Inhabited

namespace ChangesResult

abbrev slots : List Slot :=
  [.required "accountId" String, .required "oldState" State, .required "newState" State,
    .defaulted "hasMoreChanges" Bool false, .defaulted "created" (List String) [],
    .defaulted "updated" (List String) [], .defaulted "destroyed" (List String) []]

instance : Wire ChangesResult :=
  .record "ChangesResponse" slots
    (fun (accountId, oldState, newState, hasMoreChanges, created, updated, destroyed, ()) =>
      { accountId, oldState, newState, hasMoreChanges, created, updated, destroyed })
    (fun result =>
      (result.accountId, result.oldState, result.newState, result.hasMoreChanges,
        result.created, result.updated, result.destroyed, ()))

end ChangesResult

/-- The fate of each object that was to be created, updated or destroyed. -/
structure SetResult (α : Type) where
  accountId : String
  oldState : Option State
  newState : Option State
  created : Option (Dict α)
  updated : Option (Dict (Option Json))
  destroyed : Option (List String)
  notCreated : Option (Dict SetError)
  notUpdated : Option (Dict SetError)
  notDestroyed : Option (Dict SetError)
deriving DecidableEq, Inhabited

namespace SetResult

variable {α : Type} [Wire α]

variable (α) in
abbrev slots : List Slot :=
  [.required "accountId" String, .nullable "oldState" State, .nullable "newState" State,
    .nullable "created" (Dict α), .nullable "updated" (Dict (Option Json)),
    .nullable "destroyed" (List String), .nullable "notCreated" (Dict SetError),
    .nullable "notUpdated" (Dict SetError), .nullable "notDestroyed" (Dict SetError)]

instance : Wire (SetResult α) :=
  .record "SetResponse" (slots α)
    (fun (accountId, oldState, newState, created, updated, destroyed, notCreated, notUpdated,
        notDestroyed, ()) =>
      { accountId, oldState, newState, created, updated, destroyed, notCreated, notUpdated,
        notDestroyed })
    (fun result =>
      (result.accountId, result.oldState, result.newState, result.created, result.updated,
        result.destroyed, result.notCreated, result.notUpdated, result.notDestroyed, ()))

end SetResult

/-- The object made under a creation id, or why there is none: a refusal first,
else the lack of any outcome. -/
def takeOutcome {α : Type} (objectType creationId : String) (problem : ResponseProblem)
    (created : Dict α) (notCreated : Dict SetError) : Except JmapError α :=
  match notCreated.find? creationId with
  | some error => .error (.set objectType creationId error)
  | none =>
    match created.find? creationId with
    | some value => .ok value
    | none => .error (.invalidResponse problem)

namespace SetResult

variable {α : Type}

def outcome (result : SetResult α) (objectType creationId : String) : Except JmapError α :=
  takeOutcome objectType creationId (.noOutcome objectType creationId)
    (result.created.getD .empty) (result.notCreated.getD .empty)

def takeCreated (result : SetResult α) (objectType creationId : String) :
    Except JmapError α × SetResult α :=
  let outcome := result.outcome objectType creationId
  if ((result.notCreated.getD .empty).find? creationId).isSome then
    (outcome, { result with notCreated := result.notCreated.map (·.erase creationId) })
  else (outcome, { result with created := result.created.map (·.erase creationId) })

end SetResult

/-- A summary of a set result in which no map is missing. -/
structure SetSummary (α : Type) where
  created : Dict α
  updated : List String
  destroyed : List String
  notCreated : Dict SetError
  notUpdated : Dict SetError
  notDestroyed : Dict SetError
  newState : Option State
deriving DecidableEq, Inhabited

namespace SetSummary

variable {α : Type}

def ofResult (result : SetResult α) : SetSummary α where
  created := result.created.getD .empty
  updated := (result.updated.map (·.keys)).getD []
  destroyed := result.destroyed.getD []
  notCreated := result.notCreated.getD .empty
  notUpdated := result.notUpdated.getD .empty
  notDestroyed := result.notDestroyed.getD .empty
  newState := result.newState

def isComplete (summary : SetSummary α) : Bool :=
  summary.notCreated.isEmpty && summary.notUpdated.isEmpty && summary.notDestroyed.isEmpty

end SetSummary

structure ImportResult where
  accountId : String
  oldState : Option State
  newState : State
  created : Option (Dict Email)
  notCreated : Option (Dict SetError)
deriving DecidableEq, Inhabited

namespace ImportResult

abbrev slots : List Slot :=
  [.required "accountId" String, .nullable "oldState" State, .required "newState" State,
    .nullable "created" (Dict Email), .nullable "notCreated" (Dict SetError)]

instance : Wire ImportResult :=
  .record "EmailImportResponse" slots
    (fun (accountId, oldState, newState, created, notCreated, ()) =>
      { accountId, oldState, newState, created, notCreated })
    (fun result =>
      (result.accountId, result.oldState, result.newState, result.created, result.notCreated, ()))

end ImportResult

structure ParseResult where
  accountId : String
  parsed : Option (Dict (List CalendarEvent))
  notParsable : Option (List String)
  notFound : Option (List String)
deriving DecidableEq, Inhabited

namespace ParseResult

abbrev slots : List Slot :=
  [.required "accountId" String, .nullable "parsed" (Dict (List CalendarEvent)),
    .nullable "notParsable" (List String), .nullable "notFound" (List String)]

instance : Wire ParseResult :=
  .record "CalendarEventParseResponse" slots
    (fun (accountId, parsed, notParsable, notFound, ()) =>
      { accountId, parsed, notParsable, notFound })
    (fun result =>
      (result.accountId, result.parsed, result.notParsable, result.notFound, ()))

end ParseResult

structure UploadResult where
  accountId : String
  created : Dict CreatedBlob
  notCreated : Dict SetError
deriving DecidableEq, Inhabited

namespace UploadResult

abbrev slots : List Slot :=
  [.required "accountId" String, .defaulted "created" (Dict CreatedBlob) .empty,
    .defaulted "notCreated" (Dict SetError) .empty]

instance : Wire UploadResult :=
  .record "BlobUploadResponse" slots
    (fun (accountId, created, notCreated, ()) => { accountId, created, notCreated })
    (fun result => (result.accountId, result.created, result.notCreated, ()))

end UploadResult

end Jmap
