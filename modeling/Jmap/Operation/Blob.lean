import Jmap.Operation

namespace Jmap

open Json

structure UploadedBlob where
  id : String
  size : UInt64
  mediaType : Option String
  /-- Known only of a blob that was sent inside a request. -/
  sha512 : Option String := none
  state : Option State := none
deriving DecidableEq

structure BlobResult where
  /-- There is none if the server has not found the id. -/
  blob : Option Blob
  state : State
deriving DecidableEq

namespace Operation

def digestName : String := "sha-512"

def uploadBlob (session : Session) (account : String) (data : Utf8.Bytes)
    (contentType : String) : Operation UploadedBlob where
  invocations :=
    let account := session.resolveBlob account
    let blob : BlobUpload := { data := [.ofBytes data], mediaType := some contentType }
    [.of .blobUpload account "0" [("create", .ofMembers [("0", Wire.write blob)])],
      .of .blobGet account "1"
        [("ids", Wire.write ["#0"]), ("properties", Wire.write ["digest:" ++ digestName, "size"])]]
  decode response := do
    let result ← response.get .blobUpload "0"
    let created ← takeOutcome "Blob" "0" .noCreatedBlob result.created result.notCreated
    let fetched ← response.get .blobGet "1"
    match fetched.list with
    | [blob] =>
      .ok
        { id := created.id
          size := created.size
          mediaType := created.mediaType
          sha512 := blob.digest? digestName
          state := some fetched.state }
    | blobs => .error (.invalidResponse (.severalUploads blobs.length))

def getBlob (session : Session) (account id : String) : Operation BlobResult where
  invocations :=
    [.of .blobGet (session.resolveBlob account) "0"
      [("ids", Wire.write [id]),
        ("properties", Wire.write ["data", "digest:" ++ digestName, "size"])]]
  decode response := do
    let result ← response.get .blobGet "0"
    if result.list.length > 1 then .error (.invalidResponse (.severalBlobs result.list.length))
    else .ok { blob := result.list.head?, state := result.state }

end Operation

end Jmap
