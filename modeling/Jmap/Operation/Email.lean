import Jmap.Operation

namespace Jmap

open Json

structure BodyOptions where
  fetchBodies : Bool := false
  /-- Longer body values are cut off. -/
  maxBodyValueBytes : Option UInt64 := none
deriving DecidableEq

namespace BodyOptions

def withBodies : BodyOptions := { fetchBodies := true }

def arguments (options : BodyOptions) : List (String × Json) :=
  ("fetchAllBodyValues", .bool options.fetchBodies) ::
    match options.maxBodyValueBytes with
    | some most => [("maxBodyValueBytes", Wire.write most)]
    | none => []

end BodyOptions

structure Emails where
  emails : List Email
  notFound : List String
  state : State
deriving DecidableEq

structure EmailPage where
  emails : List Email
  total : Option UInt64
  limit : Option UInt64
  position : UInt64
  queryState : State
deriving DecidableEq

structure EmailChanges where
  created : List Email
  updated : List Email
  destroyed : List String
  hasMoreChanges : Bool
  oldState : State
  newState : State
deriving DecidableEq

structure EmailImport where
  blobId : String
  mailboxIds : Dict Bool
  keywords : Dict Bool := .empty
  receivedAt : Option Instant := none

namespace EmailImport

def inMailbox (blobId mailboxId : String) : EmailImport where
  blobId := blobId
  mailboxIds := .ofList [(mailboxId, true)]

def toJson (message : EmailImport) : Json :=
  .ofMembers (
    [("blobId", .str message.blobId), ("mailboxIds", Wire.write message.mailboxIds),
      ("keywords", Wire.write message.keywords)] ++
    match message.receivedAt with
    | some instant => [("receivedAt", Wire.write instant)]
    | none => [])

end EmailImport

structure Threads where
  threads : List Thread
  notFound : List String
  state : State
deriving DecidableEq

namespace Operation

def emailGet (account tag : String) (ids : String × Json) (options : BodyOptions) : Invocation :=
  .of .emailGet account tag (ids :: options.arguments)

/-- Finds messages, the newest first. -/
def emailQuery (account tag : String) (filter : EmailFilter) (offset : UInt64)
    (limit : Option UInt64) : Invocation :=
  .of .emailQuery account tag (
    [("filter", Wire.write filter),
      ("sort", Wire.write [Comparator.descending "receivedAt"]),
      ("calculateTotal", .bool true)] ++
    (if offset = 0 then [] else [("position", Wire.write offset)]) ++
    match limit with
    | some limit => [("limit", Wire.write limit)]
    | none => [])

def pageInvocations (account queryTag getTag : String) (filter : EmailFilter) (offset : UInt64)
    (limit : Option UInt64) (options : BodyOptions) : List Invocation :=
  [emailQuery account queryTag filter offset limit,
    emailGet account getTag (idsOf queryTag .emailQuery "/ids/*") options]

def decodePage (queryTag getTag : String) (response : Response) : Except JmapError EmailPage := do
  let query ← response.get .emailQuery queryTag
  let result ← response.get .emailGet getTag
  .ok
    { emails := result.list
      total := query.total
      limit := query.limit
      position := query.position
      queryState := query.queryState }

def getEmails (session : Session) (account : String) (ids : List String)
    (options : BodyOptions) : Operation Emails where
  invocations :=
    [emailGet (session.resolveMail account) "0" ("ids", Wire.write ids) options]
  decode response := do
    let result ← response.get .emailGet "0"
    .ok { emails := result.list, notFound := result.notFound, state := result.state }

def getAllEmailsInMailbox (session : Session) (account mailboxId : String) (offset : UInt64)
    (limit : Option UInt64) (options : BodyOptions) : Operation EmailPage where
  invocations :=
    pageInvocations (session.resolveMail account) "0" "1" { inMailbox := some mailboxId } offset
      limit options
  decode := decodePage "0" "1"

def queryEmails (session : Session) (accounts : List String) (filter : EmailFilter)
    (offset : UInt64) (limit : Option UInt64) (options : BodyOptions) :
    Operation (Dict EmailPage) :=
  forAccounts (session.mailAccounts accounts)
    (fun account =>
      pageInvocations account (accountTag account "0") (accountTag account "1") filter offset
        limit options)
    (fun account => decodePage (accountTag account "0") (accountTag account "1"))

def getEmailsSince (session : Session) (account sinceState : String)
    (maxChanges : Option UInt64) (options : BodyOptions) : Operation EmailChanges where
  invocations :=
    let account := session.resolveMail account
    let most :=
      match maxChanges with
      | some most => [("maxChanges", Wire.write most)]
      | none => []
    [.of .emailChanges account "0" (("sinceState", .str sinceState) :: most),
      emailGet account "1" (idsOf "0" .emailChanges "/created") options,
      emailGet account "2" (idsOf "0" .emailChanges "/updated") options]
  decode response := do
    let changes ← response.get .emailChanges "0"
    let created ← response.get .emailGet "1"
    let updated ← response.get .emailGet "2"
    .ok
      { created := created.list
        updated := updated.list
        destroyed := changes.destroyed
        hasMoreChanges := changes.hasMoreChanges
        oldState := changes.oldState
        newState := changes.newState }

/-- Creates a message, in place of another if one is given. -/
def createEmail (session : Session) (account : String) (email : Email)
    (replaced : Option String) : Operation Email where
  invocations :=
    let destroyed :=
      match replaced with
      | some id => [("destroy", Wire.write [id])]
      | none => []
    [.of .emailSet (session.resolveMail account) "0"
      (("create", .ofMembers [("c", Wire.write email)]) :: destroyed)]
  decode response := do
    let result ← response.get .emailSet "0"
    result.outcome "Email" "c"

def decodeSummary (response : Response) : Except JmapError (SetSummary Email) := do
  let result ← response.get .emailSet "0"
  .ok (.ofResult result)

def updateEmails (session : Session) (account : String) (updates : Dict (Dict Json)) :
    Operation (SetSummary Email) where
  invocations :=
    [.of .emailSet (session.resolveMail account) "0" [("update", Wire.write updates)]]
  decode := decodeSummary

def deleteEmails (session : Session) (account : String) (ids : List String) :
    Operation (SetSummary Email) where
  invocations := [.of .emailSet (session.resolveMail account) "0" [("destroy", Wire.write ids)]]
  decode := decodeSummary

def importEmail (session : Session) (account : String) (message : EmailImport) :
    Operation Email where
  invocations :=
    [.of .emailImport (session.resolveMail account) "0"
      [("emails", .ofMembers [("i", message.toJson)])]]
  decode response := do
    let result ← response.get .emailImport "0"
    takeOutcome "Email" "i" .noImportedEmail (result.created.getD .empty)
      (result.notCreated.getD .empty)

def getThreads (session : Session) (account : String) (ids : List String) :
    Operation Threads where
  invocations := [.of .threadGet (session.resolveMail account) "0" [("ids", Wire.write ids)]]
  decode response := do
    let result ← response.get .threadGet "0"
    .ok { threads := result.list, notFound := result.notFound, state := result.state }

end Operation

end Jmap
