import Jmap.Operation.Blob
import Jmap.Session.Listeners
import Jmap.Transport
import Jmap.UriTemplate

/-!
Clients: sessions fetched, requests sent and responses read on behalf of a user.
Nothing is sent twice. Each function tells its result and the world after it; what
is logged on the way is left out, here as elsewhere.
-/

namespace Jmap

open Json

structure Reply (α : Type) where
  value : α
  sessionState : SessionState
  language : Option String
deriving DecidableEq

/-- A client acts in a world that also holds the context of the call and the
listeners. -/
structure Client (World : Type) where
  sessionUrl : String
  transport : Transport World
  /-- Fails once the context of the call has stopped. -/
  check : World → Except HttpError Unit
  signal : SessionOutdated → World → World

namespace Client

variable {World α : Type}

def fetchSession (client : Client World) (username : String) (world : World) :
    Except JmapError Session × World :=
  let (answer, world) := client.transport.getSession client.sessionUrl username world
  match answer with
  | .error error => (.error (.transport error), world)
  | .ok body =>
    match SessionDocument.ofBytes? body with
    | .error error => (.error (.decodingResponse error), world)
    | .ok document =>
      match Session.ofDocument document with
      | .error problem => (.error (.invalidSession problem), world)
      | .ok session => (.ok session, world)

def outdated (session : Session) (request : Request) (state : SessionState) :
    SessionOutdated where
  username := session.username
  accountIds := request.accountIds
  previousState := session.state
  newState := state

/-- Sends a request and reads its response. The response has to answer the
request; whether it does or not, listeners are told if the state of the session
has changed. -/
def command (client : Client World) (session : Session) (request : Request)
    (decode : Response → Except JmapError α) (world : World) :
    Except JmapError (Reply α) × World :=
  let (answer, world) :=
    client.transport.post session.apiUrl.render session.username (Utf8.encode request.render) world
  match answer with
  | .error error => (.error (.transport error), world)
  | .ok answer =>
    match client.check world with
    | .error error => (.error (.transport error), world)
    | .ok () =>
      match Response.ofBytes? answer.body with
      | .error error => (.error error, world)
      | .ok response =>
        let world :=
          if response.sessionState = session.state then world
          else client.signal (outdated session request response.sessionState) world
        let value := do
          response.correlate request
          decode response
        (value.map (fun value =>
          { value, sessionState := response.sessionState, language := answer.language }), world)

/-- Carries out an operation; if there is no request for it nothing is sent. -/
def perform (client : Client World) (session : Session) (operation : Operation α)
    (world : World) : Except JmapError (Reply α) × World :=
  match operation.request session with
  | .error error => (.error error, world)
  | .ok request => client.command session request operation.decode world

structure UploadAnswer where
  blobId : String
  mediaType : Option String
  size : UInt64

namespace UploadAnswer

abbrev slots : List Slot :=
  [.required "blobId" String, .nullable "type" String, .defaulted "size" UInt64 0]

instance : Wire UploadAnswer :=
  .record "UploadResponse" slots
    (fun (blobId, mediaType, size, ()) => { blobId, mediaType, size })
    (fun answer => (answer.blobId, answer.mediaType, answer.size, ()))

end UploadAnswer

def uploadBlobStream (client : Client World) (session : Session) (account contentType : String)
    (body : List BodyItem) (world : World) : Except JmapError UploadedBlob × World :=
  let url := UriTemplate.expandUpload session.uploadTemplate (session.resolveBlob account)
  let (answer, world) := client.transport.upload url session.username contentType body world
  match answer with
  | .error error => (.error (.transport error), world)
  | .ok answer =>
    match (Outline.ofBytes answer.body).read UploadAnswer with
    | .error error => (.error (.decodingResponse error), world)
    | .ok blob =>
      (.ok { id := blob.blobId, size := blob.size, mediaType := blob.mediaType }, world)

def downloadBlobStream (client : Client World) (session : Session)
    (account blobId name mediaType : String) (world : World) :
    Except JmapError (Option BlobDownload) × World :=
  let url :=
    UriTemplate.expandDownload session.downloadTemplate (session.resolveBlob account) blobId name
      mediaType
  let (answer, world) := client.transport.download url session.username world
  match answer with
  | .error error => (.error (.transport error), world)
  | .ok download => (.ok download, world)

end Client

end Jmap
