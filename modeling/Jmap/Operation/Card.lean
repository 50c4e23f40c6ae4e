import Jmap.Operation

namespace Jmap

open Json

structure CardFilter where
  inAddressBook : Option String := none
  uid : Option String := none
  kind : Option String := none
  updatedAfter : Option Instant := none
  text : Option String := none
  name : Option String := none
  email : Option String := none
  phone : Option String := none
deriving DecidableEq, Inhabited

namespace CardFilter

abbrev slots : List Slot :=
  [.optional "inAddressBook" String, .optional "uid" String, .optional "kind" String,
    .optional "updatedAfter" Instant, .optional "text" String, .optional "name" String,
    .optional "email" String, .optional "phone" String]

instance : Wire CardFilter :=
  .record "ContactCardFilterCondition" slots
    (fun (inAddressBook, uid, kind, updatedAfter, text, name, email, phone, ()) =>
      { inAddressBook, uid, kind, updatedAfter, text, name, email, phone })
    (fun filter =>
      (filter.inAddressBook, filter.uid, filter.kind, filter.updatedAfter, filter.text,
        filter.name, filter.email, filter.phone, ()))

end CardFilter

structure ContactCards where
  cards : List ContactCard
  notFound : List String
  state : State
deriving DecidableEq

structure CreatedContactCard where
  card : ContactCard
  state : Option State
deriving DecidableEq

structure DeletedContactCards where
  destroyed : List String
  notDestroyed : Dict SetError
  state : Option State
deriving DecidableEq

structure ParsedCalendar where
  parsed : Dict (List CalendarEvent)
  notParsable : List String
  notFound : List String
deriving DecidableEq

namespace Operation

/-- The cards with given ids, or all of an account. -/
def getContactCards (session : Session) (account : String) (ids : Option (List String)) :
    Operation ContactCards where
  invocations :=
    [.of .cardGet (session.account .contacts account) "0" [("ids", Wire.write ids)]]
  decode response := do
    let result ← response.get .cardGet "0"
    .ok { cards := result.list, notFound := result.notFound, state := result.state }

/-- The cards of several accounts that fulfil a condition, those updated last first
unless another order is given. -/
def queryContactCards (session : Session) (accounts : List String) (filter : CardFilter)
    (sort : Option (List Comparator)) (position : UInt64) (limit : Option UInt64) :
    Operation (Dict (List ContactCard)) :=
  forAccounts (session.accountsFor .contacts accounts)
    (fun account =>
      [.of .cardQuery account (accountTag account "0") (
          [("filter", Wire.write filter),
            ("sort", Wire.write (sort.getD [Comparator.descending "updated"]))] ++
          (if position = 0 then [] else [("position", Wire.write position)]) ++
          match limit with
          | some limit => [("limit", Wire.write limit)]
          | none => []),
        .of .cardGet account (accountTag account "1")
          [idsOf (accountTag account "0") .cardQuery "/ids/*"]])
    (fun account response => do
      let result ← response.get .cardGet (accountTag account "1")
      .ok result.list)

def createContactCard (session : Session) (account : String) (card : ContactCard) :
    Operation CreatedContactCard where
  invocations :=
    let account := session.account .contacts account
    [.of .cardSet account "0" [("create", .ofMembers [("c", Wire.write card)])],
      .of .cardGet account "1" [idsOf "0" .cardSet "/created/c/id"]]
  decode response := do
    let result ← response.get .cardSet "0"
    let created ← result.outcome "ContactCard" "c"
    let fetched ← response.get .cardGet "1"
    .ok { card := fetched.list.headD created, state := result.newState }

def deleteContactCards (session : Session) (account : String) (ids : List String) :
    Operation DeletedContactCards where
  invocations :=
    [.of .cardSet (session.account .contacts account) "0" [("destroy", Wire.write ids)]]
  decode response := do
    let result ← response.get .cardSet "0"
    .ok
      { destroyed := result.destroyed.getD []
        notDestroyed := result.notDestroyed.getD .empty
        state := result.newState }

/-- Reads calendar blobs without keeping their events. -/
def parseCalendarBlob (session : Session) (account : String) (blobIds : List String) :
    Operation ParsedCalendar where
  invocations :=
    [.of .eventParse (session.account .calendars account) "0" [("blobIds", Wire.write blobIds)]]
  decode response := do
    let result ← response.get .eventParse "0"
    .ok
      { parsed := result.parsed.getD .empty
        notParsable := result.notParsable.getD []
        notFound := result.notFound.getD [] }

end Operation

end Jmap
