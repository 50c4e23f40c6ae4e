import Jmap.Client
import Jmap.Error.Report
import Jmap.Operation.Card
import Jmap.Operation.Email
import Jmap.Operation.Mailbox
import Jmap.Operation.Quota
import Jmap.Operation.Submission

namespace Jmap

open Json

def Mailboxes.toJson (result : Mailboxes) : Json :=
  .ofMembers [("mailboxes", Wire.write result.mailboxes), ("not_found", Wire.write result.notFound),
    ("state", Wire.write result.state)]

def Emails.toJson (result : Emails) : Json :=
  .ofMembers [("emails", Wire.write result.emails), ("not_found", Wire.write result.notFound),
    ("state", Wire.write result.state)]

def EmailPage.toJson (page : EmailPage) : Json :=
  .ofMembers [("emails", Wire.write page.emails), ("total", Wire.write page.total),
    ("limit", Wire.write page.limit), ("position", Wire.write page.position),
    ("query_state", Wire.write page.queryState)]

def EmailChanges.toJson (changes : EmailChanges) : Json :=
  .ofMembers [("created", Wire.write changes.created), ("updated", Wire.write changes.updated),
    ("destroyed", Wire.write changes.destroyed),
    ("has_more_changes", .bool changes.hasMoreChanges),
    ("old_state", Wire.write changes.oldState), ("new_state", Wire.write changes.newState)]

def SetSummary.toJson {α : Type} [Wire α] (summary : SetSummary α) : Json :=
  .ofMembers [("created", Wire.write summary.created), ("updated", Wire.write summary.updated),
    ("destroyed", Wire.write summary.destroyed), ("not_created", Wire.write summary.notCreated),
    ("not_updated", Wire.write summary.notUpdated),
    ("not_destroyed", Wire.write summary.notDestroyed),
    ("new_state", Wire.write summary.newState), ("is_complete", .bool summary.isComplete)]

def SubmittedEmail.toJson (result : SubmittedEmail) : Json :=
  .ofMembers [("submission", Wire.write result.submission),
    ("email_state", Wire.write result.emailState)]

def Threads.toJson (result : Threads) : Json :=
  .ofMembers [("threads", Wire.write result.threads), ("not_found", Wire.write result.notFound),
    ("state", Wire.write result.state)]

def Identities.toJson (result : Identities) : Json :=
  .ofMembers [("identities", Wire.write result.identities), ("state", Wire.write result.state)]

def AccountBootstrap.toJson (result : AccountBootstrap) : Json :=
  .ofMembers [("identities", Wire.write result.identities), ("quotas", Wire.write result.quotas)]

def ContactCards.toJson (result : ContactCards) : Json :=
  .ofMembers [("cards", Wire.write result.cards), ("not_found", Wire.write result.notFound),
    ("state", Wire.write result.state)]

def CreatedContactCard.toJson (result : CreatedContactCard) : Json :=
  .ofMembers [("card", Wire.write result.card), ("state", Wire.write result.state)]

def DeletedContactCards.toJson (result : DeletedContactCards) : Json :=
  .ofMembers [("destroyed", Wire.write result.destroyed),
    ("not_destroyed", Wire.write result.notDestroyed), ("state", Wire.write result.state)]

def ParsedCalendar.toJson (result : ParsedCalendar) : Json :=
  .ofMembers [("parsed", Wire.write result.parsed),
    ("not_parsable", Wire.write result.notParsable), ("not_found", Wire.write result.notFound)]

def UploadedBlob.toJson (blob : UploadedBlob) : Json :=
  .ofMembers [("id", Wire.write blob.id), ("size", Wire.write blob.size),
    ("type", Wire.write blob.mediaType), ("sha512", Wire.write blob.sha512),
    ("state", Wire.write blob.state)]

def BlobResult.toJson (result : BlobResult) : Json :=
  .ofMembers [("blob", Wire.write result.blob), ("state", Wire.write result.state)]

def Reply.toJson (reply : Reply Json) : Json :=
  .ofMembers [("value", reply.value), ("session_state", Wire.write reply.sessionState),
    ("language", Wire.write reply.language)]

def Entry.toJson (entry : Entry) : Json :=
  let (kind, value) :=
    match entry.body with
    | .result value => ("known", value.toJson)
    | .error error =>
      ("error", .ofMembers [("method_error", Wire.write error), ("code", .str error.code.name)])
    | .unrecognized arguments => ("unrecognized", arguments)
  .ofMembers [("name", .str entry.name), ("tag", .str entry.tag), ("kind", .str kind),
    ("is_error", .bool entry.isError), ("value", value)]

def Response.members (response : Response) : List (String × Json) :=
  [("session_state", .str response.sessionState.text),
    ("created_ids", Wire.write response.createdIds),
    ("entries", .arr (response.entries.map (·.toJson)))]

def Session.resolvedJson (session : Session) (account : String) : Json :=
  .ofMembers [("mail", .str (session.resolveMail account)),
    ("submission", .str (session.resolveSubmission account)),
    ("blob", .str (session.resolveBlob account)),
    ("by_capability", .arr (Capability.all.map (fun capability =>
      .str (session.account capability account))))]

def Session.toJson (session : Session) (resolve : List String) : Json :=
  .ofMembers [("username", .str session.username), ("api_url", .str session.apiUrl.render),
    ("upload_url", .str session.uploadTemplate), ("download_url", .str session.downloadTemplate),
    ("event_source_url", Wire.write session.eventSourceUrl), ("state", Wire.write session.state),
    ("core", Wire.write session.core), ("max_calls", Wire.write session.maxCallsInRequest),
    ("accounts", Wire.write session.accounts),
    ("primary", .arr (Capability.all.map (fun capability =>
      .arr [.str capability.urn, Wire.write (session.primaryAccount? capability)]))),
    ("resolved", .arr (resolve.map session.resolvedJson))]

def BlobDownload.toJson (download : BlobDownload) (body : Json) : Json :=
  .ofMembers [("size", Wire.write download.size), ("content_type", Wire.write download.contentType),
    ("content_disposition", Wire.write download.contentDisposition),
    ("cache_control", Wire.write download.cacheControl),
    ("language", Wire.write download.language), ("debug", .str download.summary), ("body", body)]

def SessionOutdated.toJson (event : SessionOutdated) : Json :=
  .ofMembers [("username", .str event.username), ("account_ids", Wire.write event.accountIds),
    ("previous_state", Wire.write event.previousState), ("new_state", Wire.write event.newState)]

/-- Values that can be told to another process. -/
class Report (α : Type) where
  report : α → Json

export Report (report)

instance {α : Type} [Wire α] : Report α := ⟨Wire.write⟩

instance : Report Mailboxes := ⟨Mailboxes.toJson⟩

instance : Report Emails := ⟨Emails.toJson⟩

instance : Report EmailPage := ⟨EmailPage.toJson⟩

instance : Report EmailChanges := ⟨EmailChanges.toJson⟩

instance : Report SubmittedEmail := ⟨SubmittedEmail.toJson⟩

instance : Report Threads := ⟨Threads.toJson⟩

instance : Report Identities := ⟨Identities.toJson⟩

instance : Report AccountBootstrap := ⟨AccountBootstrap.toJson⟩

instance : Report ContactCards := ⟨ContactCards.toJson⟩

instance : Report CreatedContactCard := ⟨CreatedContactCard.toJson⟩

instance : Report DeletedContactCards := ⟨DeletedContactCards.toJson⟩

instance : Report ParsedCalendar := ⟨ParsedCalendar.toJson⟩

instance : Report UploadedBlob := ⟨UploadedBlob.toJson⟩

instance : Report BlobResult := ⟨BlobResult.toJson⟩

instance {α : Type} [Wire α] : Report (SetSummary α) := ⟨SetSummary.toJson⟩

instance {α : Type} [Report α] : Report (Dict α) := ⟨fun dict => .ofDict (dict.map report)⟩

end Jmap
