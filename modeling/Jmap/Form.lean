import Jmap.Config
import Jmap.Method.Result
import Jmap.Request
import Jmap.Session

namespace Jmap

open Json

structure Form where
  Value : Type
  wire : Wire Value

namespace Form

def of (α : Type) [wire : Wire α] : Form := ⟨α, wire⟩

def types : List (String × Form) :=
  [("State", of State), ("SessionState", of SessionState), ("Comparator", of Comparator),
    ("EmailFilterCondition", of EmailFilter), ("MailboxFilterCondition", of MailboxFilter),
    ("Email", of Email), ("EmailAddress", of EmailAddress), ("EmailBodyValue", of EmailBodyValue),
    ("BodyPart", of BodyPart), ("Mailbox", of Mailbox), ("MailboxRights", of MailboxRights),
    ("Thread", of Thread), ("Identity", of Identity), ("VacationResponse", of VacationResponse),
    ("Quota", of Quota), ("EmailSubmission", of EmailSubmission), ("Envelope", of Envelope),
    ("SmtpAddress", of SmtpAddress), ("ContactCard", of ContactCard),
    ("CalendarEvent", of CalendarEvent), ("BlobUploadObject", of BlobUpload),
    ("DataSourceObject", of DataSource), ("BlobCreatedInfo", of CreatedBlob),
    ("BlobUploadResponse", of UploadResult), ("Blob", of Blob),
    ("EmailImportResponse", of ImportResult), ("CalendarEventParseResponse", of ParseResult),
    ("MethodError", of MethodError), ("SetError", of SetError), ("Method", of Method),
    ("Capability", of Capability), ("Invocation", of Invocation),
    ("ResultReference", of ResultReference), ("Request", of Request),
    ("AccountData", of AccountData), ("CoreCapability", of CoreCapability),
    ("SessionResponse", of SessionDocument), ("SessionCacheConfig", of CacheConfig),
    ("EngineConfig", of EngineConfig)]

/-- The type with a name; the name of a method stands for what it results in. -/
def ofName? (name : String) : Option Form :=
  match types.find? (fun entry => entry.1 == name) with
  | some entry => some entry.2
  | none => (Method.ofName? name).map (fun method => of method.Result)

end Form

end Jmap
