import Jmap.Context.Stream
import Jmap.Text.Quoted

/-!
Ways to reach a server. A transport acts in a world, which holds all that a call
may change: the clock, the context of the call, the server itself.
-/

namespace Jmap

open Utf8 (Bytes)

structure TransportResponse where
  body : Bytes
  language : Option String := none
deriving DecidableEq

structure BlobDownload where
  body : BoundStream
  size : Option UInt64
  contentType : Option String := none
  contentDisposition : Option String := none
  cacheControl : Option String := none
  language : Option String := none

namespace BlobDownload

def shown (value : Option String) : String :=
  match value with
  | none => "None"
  | some text => "Some(" ++ text ++ ")"

/-- All of a download but its body, on one line. -/
def summary (download : BlobDownload) : String :=
  "BlobDownload \x7b size: " ++ shown (download.size.map (fun size => toString size.toNat)) ++
    ", content_type: " ++ shown (download.contentType.map Text.quoteShown) ++
    ", content_disposition: " ++ shown (download.contentDisposition.map Text.quoteShown) ++
    ", cache_control: " ++ shown (download.cacheControl.map Text.quoteShown) ++
    ", language: " ++ shown (download.language.map Text.quoteShown) ++ ", .. \x7d"

end BlobDownload

/-- A transport need not carry blobs. -/
structure Transport (World : Type) where
  post : (url username : String) → (body : Bytes) → World →
    Except HttpError TransportResponse × World
  getSession : (url username : String) → World → Except HttpError Bytes × World
  upload? : Option ((url username contentType : String) → (body : List BodyItem) → World →
    Except HttpError TransportResponse × World) := none
  /-- Asks for a blob, which may not be there. -/
  download? : Option ((url username : String) → World →
    Except HttpError (Option BlobDownload) × World) := none

namespace Transport

variable {World : Type}

def uploadUnsupported (url : String) : HttpError where
  kind := .invalidRequest
  reason := "blob upload to " ++ url ++ " is not supported by this client"

def downloadUnsupported (url : String) : HttpError where
  kind := .invalidRequest
  reason := "blob download from " ++ url ++ " is not supported by this client"

def upload (transport : Transport World) (url username contentType : String)
    (body : List BodyItem) (world : World) : Except HttpError TransportResponse × World :=
  match transport.upload? with
  | some upload => upload url username contentType body world
  | none => (.error (uploadUnsupported url), world)

def download (transport : Transport World) (url username : String) (world : World) :
    Except HttpError (Option BlobDownload) × World :=
  match transport.download? with
  | some download => download url username world
  | none => (.error (downloadUnsupported url), world)

end Transport

end Jmap
