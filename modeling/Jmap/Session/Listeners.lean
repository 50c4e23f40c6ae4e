import Jmap.Outcome

/-!
Listeners that are told when a session is out of date. A listener may register
others while it is told; those hear of later events only.
-/

namespace Jmap

structure SessionOutdated where
  username : String
  /-- The accounts that the request named; if it named none, all are affected. -/
  accountIds : List String
  previousState : SessionState
  newState : SessionState
deriving DecidableEq

/-- Registrations in their order; a listener may be registered more than once. -/
structure SessionListeners (Listener : Type) where
  registered : List Listener := []
deriving Repr

namespace SessionListeners

variable {Listener World : Type}

def add (listeners : SessionListeners Listener) (listener : Listener) :
    SessionListeners Listener :=
  ⟨listeners.registered ++ [listener]⟩

def size (listeners : SessionListeners Listener) : Nat := listeners.registered.length

def isEmpty (listeners : SessionListeners Listener) : Bool := listeners.registered.isEmpty

def summary (listeners : SessionListeners Listener) : String :=
  "SessionListeners \x7b len: " ++ toString listeners.size ++ " \x7d"

/-- Tells one listener after the other. Each answers with a changed world and the
listeners that it registers. -/
def tell (respond : Listener → World → World × List Listener) :
    List Listener → World → World × List Listener
  | [], world => (world, [])
  | listener :: others, world =>
    let (world, added) := respond listener world
    let (world, more) := tell respond others world
    (world, added ++ more)

/-- Tells those listeners of an event that are registered when it happens. -/
def signal (listeners : SessionListeners Listener)
    (respond : Listener → SessionOutdated → World → World × List Listener)
    (event : SessionOutdated) (world : World) : SessionListeners Listener × World :=
  let (world, added) :=
    tell (fun listener world => respond listener event world) listeners.registered world
  (⟨listeners.registered ++ added⟩, world)

end SessionListeners

end Jmap
