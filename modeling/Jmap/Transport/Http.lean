import Jmap.Config
import Jmap.Transport
import Jmap.Transport.HttpRequest
import Jmap.Transport.HttpResponse

/-!
Transport over HTTP. Requests pass over a link, which belongs to the world; the
context of a call bounds how long they may take. Connections and their encryption,
proxies and redirections are left to the link.
-/

namespace Jmap

open Utf8 (Bytes)

/-- A way to exchange a request for the bytes that come back. -/
structure Link (World : Type) where
  context : World → RequestContext
  now : World → Moment
  wait : Moment → World → World
  /-- What comes back, and after which time. -/
  exchange : HttpRequest → World → (Nat × Except HttpError Bytes) × World

namespace Link

variable {World : Type}

def call (link : Link World) (request : Except HttpError HttpRequest) (world : World) :
    Except HttpError HttpResponse × World :=
  match (link.context world).check (link.now world) with
  | .error error => (.error error, world)
  | .ok () =>
    match request with
    | .error error => (.error error, world)
    | .ok request =>
      let now := link.now world
      let ((time, answer), world) := link.exchange request world
      let result :=
        match answer with
        | .error error => .error error
        | .ok bytes =>
          match HttpResponse.ofBytes? bytes with
          | some response => .ok response
          | none => .error { kind := .sending, reason := "no valid response" }
      let work : Work HttpResponse := { wait := some time, result }
      match (link.context world).run now work with
      | some (moment, result) => (result, link.wait moment world)
      | none => (result, world)

end Link

namespace HttpResponse

def answer (response : HttpResponse) : Except HttpError TransportResponse := do
  let body ← response.content
  pure { body, language := response.header? "content-language" }

/-- The body as it comes in: an error follows a body that breaks off. -/
def arriving (response : HttpResponse) (now : Moment) : Body :=
  let pieces : List (Option Nat × BodyItem) :=
    if response.body = [] then [] else [(some 0, .ok response.body)]
  Body.ofItems now
    (pieces ++ if response.complete then [] else [(some 0, .error response.brokenOff)])

/-- A response to a download; nothing if the blob is not there. -/
def download (response : HttpResponse) (context : RequestContext) (now : Moment) :
    Except HttpError (Option BlobDownload) :=
  if response.status = 404 then .ok none
  else if response.isSuccess then
    .ok (some
      { body := { context, body := response.arriving now }
        size := response.length
        contentType := response.header? "content-type"
        contentDisposition := response.header? "content-disposition"
        cacheControl := response.header? "cache-control"
        language := response.header? "content-language" })
  else response.content.map (fun _ => none)

end HttpResponse

namespace HttpAgent

variable {World : Type}

/-- A body whose pieces cannot all be had is not sent to its end. -/
def gather (pieces : List BodyItem) : Except HttpError Bytes :=
  match pieces.mapM id with
  | .ok all => .ok all.flatten
  | .error error => .error { kind := .sending, reason := error.message }

def languageHeader (context : RequestContext) : List (String × String) :=
  match context.language with
  | some language => [("accept-language", language)]
  | none => []

def post (agent : HttpAgent) (link : Link World) (url username contentType : String)
    (body : Except HttpError Bytes) (world : World) :
    Except HttpError TransportResponse × World :=
  let headers := languageHeader (link.context world) ++ [("content-type", contentType)]
  let request : Except HttpError HttpRequest := do
    let request ← agent.request .post url username headers []
    pure { request with body := ← body }
  let (result, world) := link.call request world
  (result.bind HttpResponse.answer, world)

def getSession (agent : HttpAgent) (link : Link World) (url username : String) (world : World) :
    Except HttpError Bytes × World :=
  let headers := [("cache-control", "no-cache, no-store, must-revalidate")]
  let (result, world) := link.call (agent.request .get url username headers []) world
  (result.bind HttpResponse.content, world)

def download (agent : HttpAgent) (link : Link World) (url username : String) (world : World) :
    Except HttpError (Option BlobDownload) × World :=
  let headers := languageHeader (link.context world)
  let (result, world) := link.call (agent.request .get url username headers []) world
  (result.bind (fun response => response.download (link.context world) (link.now world)), world)

def transport (agent : HttpAgent) (link : Link World) : Transport World where
  post := fun url username body => agent.post link url username "application/json" (.ok body)
  getSession := agent.getSession link
  upload? := some (fun url username contentType body =>
    agent.post link url username contentType (gather body))
  download? := some (agent.download link)

end HttpAgent

def HttpAgent.standard : HttpAgent where
  userAgent := EngineConfig.defaultUserAgent

/-- The agent that a configuration describes. A master account comes before a token. -/
def EngineConfig.agent (config : EngineConfig) : HttpAgent :=
  let agent := HttpAgent.standard.withUserAgent config.userAgent
  match config.masterUser, config.masterPassword, config.token with
  | some user, some password, _ => agent.withMaster user password
  | _, _, some token => agent.withToken token
  | _, _, _ => agent

end Jmap
