import Jmap.Error.Http
import Jmap.Error.Server
import Jmap.Json.Message
import Jmap.Method

/-!
All failures that an operation reports. Each has a code; codes are grouped into
classes by where the failure comes from.
-/

namespace Jmap

open Json

inductive ErrorClass where
  | transport
  | payload
  | session
  | method
  | set
deriving DecidableEq, Inhabited, Repr

inductive ErrorCode where
  | authenticationFailed
  | invalidHttpRequest
  | serverResponse
  | readingResponseBody
  | sendingRequest
  | cancelled
  | timeout
  | invalidRequestPayload
  | tooManyMethodCalls
  | decodingResponseBody
  | invalidResponsePayload
  | invalidSessionResponse
  | serverUnavailable
  | serverFail
  | unknownMethod
  | invalidArguments
  | invalidResultReference
  | forbidden
  | accountNotFound
  | accountNotSupportedByMethod
  | accountReadOnly
  | unspecifiedType
  | setRejected
deriving DecidableEq, Inhabited, Repr

def ErrorClass.name : ErrorClass → String
  | .transport => "Transport"
  | .payload => "Payload"
  | .session => "Session"
  | .method => "Method"
  | .set => "Set"

namespace ErrorCode

def name : ErrorCode → String
  | .authenticationFailed => "AuthenticationFailed"
  | .invalidHttpRequest => "InvalidHttpRequest"
  | .serverResponse => "ServerResponse"
  | .readingResponseBody => "ReadingResponseBody"
  | .sendingRequest => "SendingRequest"
  | .cancelled => "Cancelled"
  | .timeout => "Timeout"
  | .invalidRequestPayload => "InvalidRequestPayload"
  | .tooManyMethodCalls => "TooManyMethodCalls"
  | .decodingResponseBody => "DecodingResponseBody"
  | .invalidResponsePayload => "InvalidResponsePayload"
  | .invalidSessionResponse => "InvalidSessionResponse"
  | .serverUnavailable => "ServerUnavailable"
  | .serverFail => "ServerFail"
  | .unknownMethod => "UnknownMethod"
  | .invalidArguments => "InvalidArguments"
  | .invalidResultReference => "InvalidResultReference"
  | .forbidden => "Forbidden"
  | .accountNotFound => "AccountNotFound"
  | .accountNotSupportedByMethod => "AccountNotSupportedByMethod"
  | .accountReadOnly => "AccountReadOnly"
  | .unspecifiedType => "UnspecifiedType"
  | .setRejected => "SetRejected"

def errorClass : ErrorCode → ErrorClass
  | .authenticationFailed | .invalidHttpRequest | .serverResponse | .readingResponseBody
  | .sendingRequest | .cancelled | .timeout => .transport
  | .invalidRequestPayload | .tooManyMethodCalls | .decodingResponseBody
  | .invalidResponsePayload => .payload
  | .invalidSessionResponse => .session
  | .serverUnavailable | .serverFail | .unknownMethod | .invalidArguments
  | .invalidResultReference | .forbidden | .accountNotFound | .accountNotSupportedByMethod
  | .accountReadOnly | .unspecifiedType => .method
  | .setRejected => .set

end ErrorCode

def HttpError.code (error : HttpError) : ErrorCode :=
  match error.kind with
  | .authenticationFailed => .authenticationFailed
  | .invalidRequest => .invalidHttpRequest
  | .serverResponse => .serverResponse
  | .readingBody => .readingResponseBody
  | .sending => .sendingRequest
  | .cancelled => .cancelled
  | .timeout => .timeout

/-- How servers begin to describe that an account belongs to somebody else. -/
def foreignAccountText : String := "You do not have access to account"

/-- A refusal because the account belongs to somebody else counts as an account
that is not there, so that it stays hidden. -/
def MethodError.code (error : MethodError) : ErrorCode :=
  match error.kind with
  | "serverUnavailable" => .serverUnavailable
  | "serverFail" => .serverFail
  | "serverPartialFail" => .serverFail
  | "unknownMethod" => .unknownMethod
  | "invalidArguments" => .invalidArguments
  | "invalidResultReference" => .invalidResultReference
  | "forbidden" =>
    match error.description with
    | some description =>
      if foreignAccountText.toList.isPrefixOf description.toList then .accountNotFound
      else .forbidden
    | none => .forbidden
  | "accountNotFound" => .accountNotFound
  | "accountNotSupportedByMethod" => .accountNotSupportedByMethod
  | "accountReadOnly" => .accountReadOnly
  | _ => .unspecifiedType

inductive SessionProblem where
  | missingUsername
  | missingApiUrl
  | invalidApiUrl
  | missingUploadUrl
  | missingDownloadUrl
  | missingMailAccount
  | malformedCoreCapability
deriving DecidableEq, Inhabited, Repr

def SessionProblem.message : SessionProblem → String
  | .missingUsername => "session response does not provide a username"
  | .missingApiUrl => "session response does not provide an API URL"
  | .invalidApiUrl => "session response provides an invalid API URL"
  | .missingUploadUrl => "session response does not provide an upload URL"
  | .missingDownloadUrl => "session response does not provide a download URL"
  | .missingMailAccount => "session response does not provide a primary mail account"
  | .malformedCoreCapability => "session response carries a malformed core capability"

inductive RequestProblem where
  | unknownMethod (name : String)
  | argumentsNotObject (method : Method)
  | noInvocations
  | repeatedTag (tag : String)
  | setTwice (tag plain key : String)
  | malformedReference (key tag : String) (error : ReadError)
  | notEarlier (tag resultOf : String)
  | otherMethod (tag : String) (name : Method) (resultOf : String) (method : Method)
  | relativePath (path : String)
deriving DecidableEq

def RequestProblem.message : RequestProblem → String
  | .unknownMethod name => "unknown method '" ++ name ++ "'"
  | .argumentsNotObject method => "arguments of " ++ method.name ++ " must be a JSON object"
  | .noInvocations => "a request needs at least one invocation"
  | .repeatedTag tag => "duplicate invocation tag '" ++ tag ++ "'"
  | .setTwice tag plain key =>
    "invocation '" ++ tag ++ "' sets both '" ++ plain ++ "' and '" ++ key ++ "'"
  | .malformedReference key tag error =>
    "malformed result reference '" ++ key ++ "' in invocation '" ++ tag ++ "': " ++ error.message
  | .notEarlier tag resultOf =>
    "invocation '" ++ tag ++ "' references '" ++ resultOf ++
      "', which is not an earlier invocation"
  | .otherMethod tag name resultOf method =>
    "invocation '" ++ tag ++ "' references " ++ name.name ++ " but '" ++ resultOf ++ "' is " ++
      method.name
  | .relativePath path => "result reference path '" ++ path ++ "' must start with '/'"

inductive ResponseProblem where
  | notAResponse (error : ReadError)
  | malformedError (tag : String) (error : ReadError)
  | malformedResult (name tag : String) (error : ReadError)
  | severalResponses (method : Method) (tag : String)
  | noResponse (method : Method) (tag : String)
  | undecoded (method : Method) (tag : String)
  | otherShape (actual : Method) (tag : String) (method : Method)
  | unmatchedTag (name tag : String)
  | unexpectedName (name tag : String) (method : Method)
  | repeatedResponse (name tag : String)
  | noOutcome (objectType creationId : String)
  | noImportedEmail
  | noVacationResponse
  | severalBlobs (count : Nat)
  | severalUploads (count : Nat)
  | noCreatedBlob
deriving DecidableEq

def ResponseProblem.message : ResponseProblem → String
  | .notAResponse _ => "response is not a JMAP response object"
  | .malformedError tag _ => "malformed error response tagged '" ++ tag ++ "'"
  | .malformedResult name tag _ => "malformed " ++ name ++ " response tagged '" ++ tag ++ "'"
  | .severalResponses method tag =>
    "more than one " ++ method.name ++ " response tagged '" ++ tag ++ "'"
  | .noResponse method tag => "no " ++ method.name ++ " response tagged '" ++ tag ++ "'"
  | .undecoded method tag =>
    method.name ++ " response tagged '" ++ tag ++ "' could not be decoded"
  | .otherShape actual tag method =>
    actual.name ++ " response tagged '" ++ tag ++ "' does not have the shape of " ++ method.name
  | .unmatchedTag name tag =>
    name ++ " response tagged '" ++ tag ++ "' does not match any invocation"
  | .unexpectedName name tag method =>
    "unexpected " ++ name ++ " response tagged '" ++ tag ++ "' for a " ++ method.name ++
      " invocation"
  | .repeatedResponse name tag => "duplicate " ++ name ++ " response tagged '" ++ tag ++ "'"
  | .noOutcome objectType creationId =>
    objectType ++ " set response has no outcome for creation id '" ++ creationId ++ "'"
  | .noImportedEmail => "Email/import response has no imported message"
  | .noVacationResponse => "VacationResponse/get returned no singleton"
  | .severalBlobs count => "Blob/get returned " ++ toString count ++ " blobs for one id"
  | .severalUploads count => "Blob/get returned " ++ toString count ++ " blobs for one upload"
  | .noCreatedBlob => "Blob/upload response has no created blob"

def ResponseProblem.cause? : ResponseProblem → Option ReadError
  | .notAResponse error | .malformedError _ error | .malformedResult _ _ error => some error
  | _ => none

inductive JmapError where
  | transport (error : HttpError)
  | invalidRequest (problem : RequestProblem)
  | tooManyCalls (calls : Nat) (most : UInt64)
  | decodingResponse (error : ReadError)
  | invalidResponse (problem : ResponseProblem)
  | invalidSession (problem : SessionProblem)
  | method (error : MethodError)
  | set (objectType id : String) (error : SetError)
deriving DecidableEq

namespace JmapError

def code : JmapError → ErrorCode
  | .transport error => error.code
  | .invalidRequest _ => .invalidRequestPayload
  | .tooManyCalls _ _ => .tooManyMethodCalls
  | .decodingResponse _ => .decodingResponseBody
  | .invalidResponse _ => .invalidResponsePayload
  | .invalidSession _ => .invalidSessionResponse
  | .method error => error.code
  | .set _ _ _ => .setRejected

def errorClass (error : JmapError) : ErrorClass := error.code.errorClass

def message : JmapError → String
  | .transport error => error.message
  | .invalidRequest problem => "invalid request payload: " ++ problem.message
  | .tooManyCalls calls most =>
    "request has " ++ toString calls ++ " method calls, the server allows at most " ++
      toString most.toNat
  | .decodingResponse error => "failed to decode response body: " ++ error.message
  | .invalidResponse problem => "invalid response payload: " ++ problem.message
  | .invalidSession problem => "invalid session response: " ++ problem.message
  | .method error => "method-level error: " ++ error.message
  | .set objectType id error => objectType ++ " " ++ id ++ " was rejected: " ++ error.message

end JmapError

end Jmap
