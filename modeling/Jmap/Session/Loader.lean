import Jmap.Client
import Jmap.Transport.Http

/-!
Loads of sessions. A load serves every caller that waits for it, so none of their contexts
applies: it runs under one of its own.
-/

namespace Jmap

/-- A client that loads sessions, with the time in milliseconds that a load may take. -/
structure Loader (World : Type) where
  client : Client World
  timeout : Option Nat
  now : World → Moment
  enter : RequestContext → World → World

namespace Loader

variable {World : Type}

/-- The context of a load that starts now. There is none if the clock cannot reach the deadline. -/
def context? (loader : Loader World) (world : World) : Option RequestContext :=
  RequestContext.lasting? loader.timeout (loader.now world)

def load? (loader : Loader World) (username : String) (world : World) :
    Option (Except JmapError Session × World) :=
  (loader.context? world).map (fun context =>
    loader.client.fetchSession username (loader.enter context world))

end Loader

namespace EngineConfig

variable {World : Type}

def client (config : EngineConfig) (link : Link World)
    (signal : SessionOutdated → World → World) : Client World where
  sessionUrl := config.sessionUrl
  transport := config.agent.transport link
  check world := (link.context world).check (link.now world)
  signal := signal

def loader (config : EngineConfig) (link : Link World) (signal : SessionOutdated → World → World)
    (enter : RequestContext → World → World) : Loader World where
  client := config.client link signal
  timeout := config.timeout?.map (fun seconds => seconds.toNat * 1000)
  now := link.now
  enter := enter

end EngineConfig

end Jmap
