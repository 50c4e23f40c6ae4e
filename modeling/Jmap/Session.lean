import Jmap.Outcome
import Jmap.Url

/-!
Sessions: what a server tells a user about where to send requests, and which
accounts they are for. A session is made from a document that provides all that
a client needs, and never changes.
-/

namespace Jmap

open Json

structure AccountData where
  name : Option String
  isPersonal : Option Bool
  isReadOnly : Option Bool
  capabilities : Option (Dict Json)
deriving DecidableEq, Inhabited

namespace AccountData

abbrev slots : List Slot :=
  [.nullable "name" String, .nullable "isPersonal" Bool, .nullable "isReadOnly" Bool,
    .nullable "accountCapabilities" (Dict Json)]

instance : Wire AccountData :=
  .record "AccountData" slots
    (fun (name, isPersonal, isReadOnly, capabilities, ()) =>
      { name, isPersonal, isReadOnly, capabilities })
    (fun account =>
      (account.name, account.isPersonal, account.isReadOnly, account.capabilities, ()))

end AccountData

structure CoreCapability where
  maxSizeUpload : Option UInt64 := none
  maxConcurrentUpload : Option UInt64 := none
  maxSizeRequest : Option UInt64 := none
  maxConcurrentRequests : Option UInt64 := none
  maxCallsInRequest : Option UInt64 := none
  maxObjectsInGet : Option UInt64 := none
  maxObjectsInSet : Option UInt64 := none
  collationAlgorithms : List String := []
deriving DecidableEq, Inhabited

namespace CoreCapability

abbrev slots : List Slot :=
  [.nullable "maxSizeUpload" UInt64, .nullable "maxConcurrentUpload" UInt64,
    .nullable "maxSizeRequest" UInt64, .nullable "maxConcurrentRequests" UInt64,
    .nullable "maxCallsInRequest" UInt64, .nullable "maxObjectsInGet" UInt64,
    .nullable "maxObjectsInSet" UInt64, .defaulted "collationAlgorithms" (List String) []]

instance : Wire CoreCapability :=
  .record "CoreCapability" slots
    (fun (maxSizeUpload, maxConcurrentUpload, maxSizeRequest, maxConcurrentRequests,
        maxCallsInRequest, maxObjectsInGet, maxObjectsInSet, collationAlgorithms, ()) =>
      { maxSizeUpload, maxConcurrentUpload, maxSizeRequest, maxConcurrentRequests,
        maxCallsInRequest, maxObjectsInGet, maxObjectsInSet, collationAlgorithms })
    (fun core =>
      (core.maxSizeUpload, core.maxConcurrentUpload, core.maxSizeRequest,
        core.maxConcurrentRequests, core.maxCallsInRequest, core.maxObjectsInGet,
        core.maxObjectsInSet, core.collationAlgorithms, ()))

end CoreCapability

structure SessionDocument where
  capabilities : Dict Json
  accounts : Dict AccountData
  primaryAccounts : Dict String
  username : String
  apiUrl : String
  downloadUrl : String
  uploadUrl : String
  eventSourceUrl : Option String
  state : SessionState
deriving DecidableEq, Inhabited

namespace SessionDocument

abbrev slots : List Slot :=
  [.defaulted "capabilities" (Dict Json) .empty, .defaulted "accounts" (Dict AccountData) .empty,
    .defaulted "primaryAccounts" (Dict String) .empty, .defaulted "username" String "",
    .defaulted "apiUrl" String "", .defaulted "downloadUrl" String "",
    .defaulted "uploadUrl" String "", .nullable "eventSourceUrl" String,
    .defaulted "state" SessionState {}]

instance : Wire SessionDocument :=
  .record "SessionResponse" slots
    (fun (capabilities, accounts, primaryAccounts, username, apiUrl, downloadUrl, uploadUrl,
        eventSourceUrl, state, ()) =>
      { capabilities, accounts, primaryAccounts, username, apiUrl, downloadUrl, uploadUrl,
        eventSourceUrl, state })
    (fun document =>
      (document.capabilities, document.accounts, document.primaryAccounts, document.username,
        document.apiUrl, document.downloadUrl, document.uploadUrl, document.eventSourceUrl,
        document.state, ()))

def ofBytes? (bytes : Utf8.Bytes) : Read SessionDocument :=
  (Outline.ofBytes bytes).read SessionDocument

end SessionDocument

structure Session where
  username : String
  apiUrl : Url
  uploadTemplate : String
  downloadTemplate : String
  eventSourceUrl : Option String
  mailAccount : String
  primaryAccounts : Dict String
  accounts : Dict AccountData
  core : CoreCapability
  state : SessionState
deriving DecidableEq, Inhabited

namespace Session

def ofDocument (document : SessionDocument) : Except SessionProblem Session := do
  if document.username = "" then .error .missingUsername
  if document.apiUrl = "" then .error .missingApiUrl
  let apiUrl ←
    match Url.parse document.apiUrl with
    | .ok url => .ok url
    | .error _ => .error .invalidApiUrl
  if document.uploadUrl = "" then .error .missingUploadUrl
  if document.downloadUrl = "" then .error .missingDownloadUrl
  let mailAccount ←
    match (document.primaryAccounts.find? Capability.mail.urn).filter (· != "") with
    | some account => .ok account
    | none => .error .missingMailAccount
  let core ←
    match document.capabilities.find? Capability.core.urn with
    | none => .ok {}
    | some value =>
      match read? CoreCapability value with
      | .ok core => .ok core
      | .error _ => .error .malformedCoreCapability
  .ok
    { username := document.username
      apiUrl
      uploadTemplate := document.uploadUrl
      downloadTemplate := document.downloadUrl
      eventSourceUrl := document.eventSourceUrl
      mailAccount
      primaryAccounts := document.primaryAccounts
      accounts := document.accounts
      core
      state := document.state }

def maxCallsInRequest (session : Session) : Option UInt64 := session.core.maxCallsInRequest

def primaryAccount? (session : Session) (capability : Capability) : Option String :=
  (session.primaryAccounts.find? capability.urn).filter (· != "")

/-- A caller means the default account by an empty name or an asterisk. -/
def namesAccount (account : String) : Bool := account != "" && account != "*"

/-- The account that a caller means for a capability: the one named, else the
primary account of the capability, else that for mail. -/
def account (session : Session) (capability : Capability) (account : String) : String :=
  if namesAccount account then account
  else (session.primaryAccount? capability).getD session.mailAccount

def resolveMail (session : Session) (account : String) : String :=
  if namesAccount account then account else session.mailAccount

def resolveSubmission (session : Session) (account : String) : String :=
  session.account .submission account

def resolveBlob (session : Session) (account : String) : String := session.account .blob account

end Session

end Jmap
