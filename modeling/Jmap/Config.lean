import Jmap.Context
import Jmap.Json.Record
import Jmap.Toml.Quoted
import Jmap.Toml.Reader
import Jmap.Url

namespace Jmap

open Json

/-- How sessions are cached; times are in seconds. -/
structure CacheConfig where
  ttl : UInt64 := 300
  failureTtl : UInt64 := 0
  maxCapacity : UInt64 := 1024
  reapInterval : UInt64 := 60
deriving DecidableEq, Inhabited, Repr

namespace CacheConfig

abbrev slots : List Slot :=
  [.defaulted "ttl" UInt64 300, .defaulted "failure_ttl" UInt64 0,
    .defaulted "max_capacity" UInt64 1024, .defaulted "reap_interval" UInt64 60]

instance : Wire CacheConfig :=
  .record "SessionCacheConfig" slots
    (fun (ttl, failureTtl, maxCapacity, reapInterval, ()) =>
      { ttl, failureTtl, maxCapacity, reapInterval })
    (fun config => (config.ttl, config.failureTtl, config.maxCapacity, config.reapInterval, ()))

end CacheConfig

structure EngineConfig where
  sessionUrl : String
  masterUser : Option String
  masterPassword : Option String
  token : Option String
  userAgent : String
  /-- In seconds; calls have no deadline if it is zero. -/
  requestTimeout : UInt64
  defaultLanguage : Option String
  sessionCache : CacheConfig
deriving DecidableEq, Inhabited, Repr

inductive ConfigProblem where
  | unreadable (path : String)
  | malformed
  | invalidSessionUrl (url : String) (error : Url.Error)
  | unpairedCredentials
  | zeroTtl
deriving DecidableEq

def ConfigProblem.message : ConfigProblem → String
  | .unreadable path => "Cannot read config file " ++ path
  | .malformed => "malformed configuration"
  | .invalidSessionUrl url error => "Invalid session_url '" ++ url ++ "': " ++ error.message
  | .unpairedCredentials => "master_user and master_password must be set together"
  | .zeroTtl => "session_cache.ttl must be greater than zero"

namespace EngineConfig

def defaultUserAgent : String := "jmap-engine/0.1.0"

abbrev slots : List Slot :=
  [.required "session_url" String, .nullable "master_user" String,
    .nullable "master_password" String, .nullable "token" String,
    .defaulted "user_agent" String defaultUserAgent, .defaulted "request_timeout" UInt64 30,
    .nullable "default_language" String, .defaulted "session_cache" CacheConfig {}]

instance : Wire EngineConfig :=
  .record "EngineConfig" slots
    (fun (sessionUrl, masterUser, masterPassword, token, userAgent, requestTimeout,
        defaultLanguage, sessionCache, ()) =>
      { sessionUrl, masterUser, masterPassword, token, userAgent, requestTimeout,
        defaultLanguage, sessionCache })
    (fun config =>
      (config.sessionUrl, config.masterUser, config.masterPassword, config.token,
        config.userAgent, config.requestTimeout, config.defaultLanguage, config.sessionCache, ()))

def validate (config : EngineConfig) : Except ConfigProblem Unit :=
  match Url.parse config.sessionUrl with
  | .error error => .error (.invalidSessionUrl config.sessionUrl error)
  | .ok _ =>
    if config.masterUser.isSome != config.masterPassword.isSome then .error .unpairedCredentials
    else if config.sessionCache.ttl = 0 then .error .zeroTtl
    else .ok ()

def ofToml (text : String) : Except ConfigProblem EngineConfig :=
  match Toml.ofText? text with
  | none => .error .malformed
  | some document =>
    match (Wire.read document.outline : Read EngineConfig) with
    | .error _ => .error .malformed
    | .ok config => config.validate.map (fun () => config)

def load (path : String) (content : Option String) : Except ConfigProblem EngineConfig :=
  match content with
  | none => .error (.unreadable path)
  | some text => ofToml text

/-! A written configuration names its members in order, the table of the cache
last; members without a value are left out. -/

def line (key : String) (value : List Char) : List Char :=
  key.toList ++ [' ', '=', ' '] ++ value ++ ['\n']

def stringLine (key value : String) : List Char := line key (Toml.quote value.toList)

def optionalLine (key : String) (value : Option String) : List Char :=
  match value with
  | some value => stringLine key value
  | none => []

def numberLine (key : String) (value : UInt64) : List Char :=
  line key (Nat.toDigits 10 value.toNat)

def toToml (config : EngineConfig) : String :=
  String.ofList
    (stringLine "session_url" config.sessionUrl ++
      optionalLine "master_user" config.masterUser ++
      optionalLine "master_password" config.masterPassword ++
      optionalLine "token" config.token ++
      stringLine "user_agent" config.userAgent ++
      numberLine "request_timeout" config.requestTimeout ++
      optionalLine "default_language" config.defaultLanguage ++
      "\n[session_cache]\n".toList ++
      numberLine "ttl" config.sessionCache.ttl ++
      numberLine "failure_ttl" config.sessionCache.failureTtl ++
      numberLine "max_capacity" config.sessionCache.maxCapacity ++
      numberLine "reap_interval" config.sessionCache.reapInterval)

def timeout? (config : EngineConfig) : Option UInt64 :=
  if config.requestTimeout = 0 then none else some config.requestTimeout

/-- The context of a call made now. There is none if the clock cannot reach the
deadline. -/
def context? (config : EngineConfig) (now : Moment) : Option RequestContext :=
  let lasting :=
    RequestContext.lasting? (config.timeout?.map (fun seconds => seconds.toNat * 1000)) now
  lasting.map (fun context => { context with language := config.defaultLanguage })

end EngineConfig

end Jmap
