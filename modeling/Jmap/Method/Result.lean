import Jmap.Outcome

namespace Jmap

open Json

namespace Method

@[reducible] def Result : Method → Type
  | .mailboxGet => GetResult Mailbox
  | .mailboxQuery => QueryResult
  | .emailGet => GetResult Email
  | .emailQuery => QueryResult
  | .emailChanges => ChangesResult
  | .emailSet => SetResult Email
  | .emailImport => ImportResult
  | .threadGet => GetResult Thread
  | .identityGet => GetResult Identity
  | .submissionGet => GetResult EmailSubmission
  | .submissionSet => SetResult EmailSubmission
  | .vacationGet => GetResult VacationResponse
  | .vacationSet => SetResult VacationResponse
  | .quotaGet => GetResult Quota
  | .blobGet => GetResult Blob
  | .blobUpload => UploadResult
  | .cardGet => GetResult ContactCard
  | .cardQuery => QueryResult
  | .cardSet => SetResult ContactCard
  | .eventParse => ParseResult

instance : (method : Method) → Wire method.Result
  | .mailboxGet => inferInstanceAs (Wire (GetResult Mailbox))
  | .mailboxQuery => inferInstanceAs (Wire QueryResult)
  | .emailGet => inferInstanceAs (Wire (GetResult Email))
  | .emailQuery => inferInstanceAs (Wire QueryResult)
  | .emailChanges => inferInstanceAs (Wire ChangesResult)
  | .emailSet => inferInstanceAs (Wire (SetResult Email))
  | .emailImport => inferInstanceAs (Wire ImportResult)
  | .threadGet => inferInstanceAs (Wire (GetResult Thread))
  | .identityGet => inferInstanceAs (Wire (GetResult Identity))
  | .submissionGet => inferInstanceAs (Wire (GetResult EmailSubmission))
  | .submissionSet => inferInstanceAs (Wire (SetResult EmailSubmission))
  | .vacationGet => inferInstanceAs (Wire (GetResult VacationResponse))
  | .vacationSet => inferInstanceAs (Wire (SetResult VacationResponse))
  | .quotaGet => inferInstanceAs (Wire (GetResult Quota))
  | .blobGet => inferInstanceAs (Wire (GetResult Blob))
  | .blobUpload => inferInstanceAs (Wire UploadResult)
  | .cardGet => inferInstanceAs (Wire (GetResult ContactCard))
  | .cardQuery => inferInstanceAs (Wire QueryResult)
  | .cardSet => inferInstanceAs (Wire (SetResult ContactCard))
  | .eventParse => inferInstanceAs (Wire ParseResult)

end Method

structure MethodResult where
  method : Method
  value : method.Result

namespace MethodResult

def ofJson? (method : Method) (arguments : Json) : Read MethodResult :=
  (read? method.Result arguments).map (MethodResult.mk method)

def toJson (result : MethodResult) : Json := Wire.write result.value

def as? (result : MethodResult) (method : Method) : Option method.Result :=
  if same : result.method = method then some (same ▸ result.value) else none

@[simp] theorem as?_self (method : Method) (value : method.Result) :
    as? ⟨method, value⟩ method = some value := by
  simp [as?]

end MethodResult

end Jmap
