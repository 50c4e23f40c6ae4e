import Jmap.Base64
import Jmap.Json.Record

namespace Jmap

open Json

/-- What the data of a new blob is taken from: text, base64, or another blob. -/
inductive DataSource where
  | text (data : String)
  | base64 (data : String)
  | blob (id : String) (offset length : Option UInt64)
deriving DecidableEq, Inhabited

namespace DataSource

abbrev textSlots : List Slot := [.required "data:asText" String]

abbrev base64Slots : List Slot := [.required "data:asBase64" String]

abbrev blobSlots : List Slot :=
  [.required "blobId" String, .optionalByName "offset" UInt64, .optionalByName "length" UInt64]

/-- The members of an object; no array is a source. -/
def readVariant (slots : List Slot) (outline : Outline) : Option (Row slots) :=
  match outline with
  | .obj _ _ => (Row.read "DataSource" slots outline).toOption
  | _ => none

/-- The first kind of source that the value fits. -/
def ofOutline? (outline : Outline) : Option DataSource :=
  match readVariant textSlots outline with
  | some (data, ()) => some (.text data)
  | none =>
    match readVariant base64Slots outline with
    | some (data, ()) => some (.base64 data)
    | none =>
      match readVariant blobSlots outline with
      | some (id, offset, length, ()) => some (.blob id offset length)
      | none => none

instance : Wire DataSource where
  read outline := do
    let _ ← Fault.lift outline.keep
    match ofOutline? outline with
    | some source => .ok source
    | none => .error (.mismatch .noVariant)
  write
    | .text data => Row.write textSlots (data, ())
    | .base64 data => Row.write base64Slots (data, ())
    | .blob id offset length => Row.write blobSlots (id, offset, length, ())

def ofBytes (bytes : Utf8.Bytes) : DataSource := .base64 (Base64.encode bytes)

end DataSource

structure BlobUpload where
  data : List DataSource
  mediaType : Option String
deriving DecidableEq, Inhabited

namespace BlobUpload

abbrev slots : List Slot :=
  [.required "data" (List DataSource), .optionalByName "type" String]

instance : Wire BlobUpload :=
  .record "BlobUploadObject" slots
    (fun (data, mediaType, ()) => { data, mediaType })
    (fun upload => (upload.data, upload.mediaType, ()))

end BlobUpload

structure CreatedBlob where
  id : String
  mediaType : Option String
  size : UInt64
deriving DecidableEq, Inhabited

namespace CreatedBlob

abbrev slots : List Slot :=
  [.required "id" String, .nullable "type" String, .defaulted "size" UInt64 0]

instance : Wire CreatedBlob :=
  .record "BlobCreatedInfo" slots
    (fun (id, mediaType, size, ()) => { id, mediaType, size })
    (fun blob => (blob.id, blob.mediaType, blob.size, ()))

end CreatedBlob

structure Blob where
  id : String
  asText : Option String
  asBase64 : Option String
  size : UInt64
  isEncodingProblem : Bool
  isTruncated : Bool
  digests : Dict Json
deriving DecidableEq, Inhabited

namespace Blob

abbrev slots : List Slot :=
  [.required "id" String, .nullable "data:asText" String, .nullable "data:asBase64" String,
    .defaulted "size" UInt64 0, .defaulted "isEncodingProblem" Bool false,
    .defaulted "isTruncated" Bool false]

instance : Wire Blob :=
  .openRecord "Blob" slots
    (fun (id, asText, asBase64, size, isEncodingProblem, isTruncated, ()) digests =>
      { id, asText, asBase64, size, isEncodingProblem, isTruncated, digests })
    (fun blob =>
      ((blob.id, blob.asText, blob.asBase64, blob.size, blob.isEncodingProblem,
        blob.isTruncated, ()), blob.digests))

def digest? (blob : Blob) (algorithm : String) : Option String :=
  (blob.digests.find? ("digest:" ++ algorithm)).bind Json.asString?

/-- The data, from the text if there is one and else from base64. `none` if there
is no data; `some none` if it is no base64. -/
def bytes? (blob : Blob) : Option (Option Utf8.Bytes) :=
  match blob.asText with
  | some text => some (some (Utf8.encode text))
  | none => blob.asBase64.map Base64.decode?

end Blob

end Jmap
