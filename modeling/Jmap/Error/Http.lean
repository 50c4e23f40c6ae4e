namespace Jmap

inductive HttpError.Kind where
  | authenticationFailed
  | invalidRequest
  | serverResponse
  | readingBody
  | sending
  | cancelled
  | timeout
deriving DecidableEq, Inhabited, Repr

def HttpError.Kind.all : List HttpError.Kind :=
  [.authenticationFailed, .invalidRequest, .serverResponse, .readingBody, .sending, .cancelled,
    .timeout]

def HttpError.Kind.name : HttpError.Kind → String
  | .authenticationFailed => "AuthenticationFailed"
  | .invalidRequest => "InvalidRequest"
  | .serverResponse => "ServerResponse"
  | .readingBody => "ReadingBody"
  | .sending => "Sending"
  | .cancelled => "Cancelled"
  | .timeout => "Timeout"

structure HttpError where
  kind : HttpError.Kind
  status : Option UInt16 := none
  reason : String
deriving DecidableEq, Inhabited, Repr

namespace HttpError

def cancelled : HttpError := { kind := .cancelled, reason := "request was cancelled" }

def timeout : HttpError := { kind := .timeout, reason := "request deadline exceeded" }

def message (error : HttpError) : String :=
  match error.status with
  | some status => "HTTP error " ++ toString status.toNat ++ ": " ++ error.reason
  | none => "HTTP error: " ++ error.reason

end HttpError

end Jmap
