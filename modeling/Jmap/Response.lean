import Jmap.Method.Result
import Jmap.Request

namespace Jmap

open Json

inductive Entry.Body where
  | result (value : MethodResult)
  | error (value : MethodError)
  /-- The arguments of a method without a registered name, as they came. -/
  | unrecognized (arguments : Json)

structure Entry where
  name : String
  tag : String
  body : Entry.Body

namespace Entry

def decode (name : String) (arguments : Json) (tag : String) : Except ResponseProblem Entry :=
  if name = Method.errorName then
    match read? MethodError arguments with
    | .ok error => .ok ⟨name, tag, .error error⟩
    | .error error => .error (.malformedError tag error)
  else
    match Method.ofName? name with
    | some method =>
      match MethodResult.ofJson? method arguments with
      | .ok result => .ok ⟨name, tag, .result result⟩
      | .error error => .error (.malformedResult name tag error)
    | none => .ok ⟨name, tag, .unrecognized arguments⟩

def isError (entry : Entry) : Bool :=
  match entry.body with
  | .error _ => true
  | _ => false

end Entry

/-- A response as it is written, its entries not yet read. -/
structure RawResponse where
  entries : List (String × Json × String)
  sessionState : SessionState
  createdIds : Option (Dict String)

namespace RawResponse

abbrev slots : List Slot :=
  [.required "methodResponses" (List (String × Json × String)),
    .required "sessionState" SessionState, .nullable "createdIds" (Dict String)]

instance : Wire RawResponse :=
  .record "WireResponse" slots
    (fun (entries, sessionState, createdIds, ()) => { entries, sessionState, createdIds })
    (fun response => (response.entries, response.sessionState, response.createdIds, ()))

end RawResponse

structure Response where
  entries : List Entry
  sessionState : SessionState
  createdIds : Option (Dict String)

namespace Response

def decodeEntries : List (String × Json × String) → Except ResponseProblem (List Entry)
  | [] => .ok []
  | (name, arguments, tag) :: others => do
    let entry ← Entry.decode name arguments tag
    let entries ← decodeEntries others
    .ok (entry :: entries)

def ofRaw (response : RawResponse) : Except ResponseProblem Response :=
  (decodeEntries response.entries).map (fun entries =>
    { entries, sessionState := response.sessionState, createdIds := response.createdIds })

def ofBytes? (bytes : Utf8.Bytes) : Except JmapError Response :=
  match (Outline.ofBytes bytes).read RawResponse with
  | .error error => .error (.invalidResponse (.notAResponse error))
  | .ok response =>
    match ofRaw response with
    | .error problem => .error (.invalidResponse problem)
    | .ok response => .ok response

def tagged (response : Response) (tag : String) : List Entry :=
  response.entries.filter (fun entry => entry.tag == tag)

/-- The single response to a method under a tag. Where there is none an error
under the tag takes its place; an error beside a response belongs to a companion
and is passed over. -/
def matchOne (response : Response) (method : Method) (tag : String) :
    Except JmapError MethodResult :=
  let tagged := response.tagged tag
  let read (entry : Entry) : Except JmapError MethodResult :=
    match entry.body with
    | .result value => .ok value
    | .error error => .error (.method error)
    | .unrecognized _ => .error (.invalidResponse (.undecoded method tag))
  match tagged.filter (fun entry => entry.name == method.name) with
  | [entry] => read entry
  | _ :: _ :: _ => .error (.invalidResponse (.severalResponses method tag))
  | [] =>
    match tagged.find? (fun entry => entry.name == Method.errorName) with
    | some entry => read entry
    | none => .error (.invalidResponse (.noResponse method tag))

def getAs (response : Response) (method : Method) (tag : String) (shape : Method) :
    Except JmapError shape.Result :=
  match response.matchOne method tag with
  | .error error => .error error
  | .ok result =>
    match result.as? shape with
    | some value => .ok value
    | none => .error (.invalidResponse (.otherShape result.method tag method))

def get (response : Response) (method : Method) (tag : String) :
    Except JmapError method.Result :=
  response.getAs method tag method

/-- An entry may carry the name of the method that was invoked, of a companion
of it, or that of an error. -/
def answers (entry : Entry) (invocation : Invocation) : Bool :=
  entry.name == invocation.method.name || entry.name == Method.errorName ||
    (match Method.ofName? entry.name with
      | some method => method.isCompanionOf invocation.method
      | none => false)

def correlateEntries (request : Request) (earlier : List Entry) :
    List Entry → Except ResponseProblem Unit
  | [] => .ok ()
  | entry :: entries =>
    match request.invocation? entry.tag with
    | none => .error (.unmatchedTag entry.name entry.tag)
    | some invocation =>
      if !answers entry invocation then
        .error (.unexpectedName entry.name entry.tag invocation.method)
      else if earlier.any (fun other => other.name == entry.name && other.tag == entry.tag) then
        .error (.repeatedResponse entry.name entry.tag)
      else correlateEntries request (entry :: earlier) entries

/-- Checks that each entry answers an invocation of the request, and that no two
have one name and tag. -/
def correlate (response : Response) (request : Request) : Except JmapError Unit :=
  match correlateEntries request [] response.entries with
  | .ok () => .ok ()
  | .error problem => .error (.invalidResponse problem)

end Response

end Jmap
