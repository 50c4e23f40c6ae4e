import Jmap.Session.Cache

/-!
A cache in the course of time: callers that wait, loads under way, and reapers
that look through the cache at regular intervals.
-/

namespace Jmap

structure Load where
  finish : Moment
  result : Except JmapError Session

structure Flight where
  entry : Nat
  load : Load

structure Caller where
  user : String
  entry : Nat

structure Timeline where
  now : Moment := 0
  cache : SessionCache
  /-- In the order in which they end. -/
  flights : List Flight := []
  /-- In the order in which they came. -/
  waiting : List Caller := []
  /-- When each reaper looks next. One that has just been made begins with the
  next wait. -/
  reapers : List (Option Moment) := []

namespace Timeline

/-- The cache looked through by one reaper that is due before a moment, and when that
is due next. Looking at the last of several moments removes all that looking at each
would have removed. -/
def reapOnce (timeline : Timeline) (moment : Moment) (due : Option Moment) :
    SessionCache × Option Moment :=
  let interval := timeline.cache.config.reapInterval.toNat * 1000
  let due := due.getD (timeline.now + interval)
  if due < moment then
    let last := due + (moment - 1 - due) / interval * interval
    ((timeline.cache.reap (max last timeline.now)).2, some (last + interval))
  else (timeline.cache, some due)

def reapBefore (timeline : Timeline) (moment : Moment) : Timeline :=
  timeline.reapers.foldl
    (fun after due =>
      let (cache, due) := reapOnce after moment due
      { after with cache, reapers := after.reapers ++ [due] })
    { timeline with reapers := [] }

/-- Ends a load, late if the clock has been moved on in the meantime: those who wait for
it take its result and go. -/
def land (timeline : Timeline) (flight : Flight) : Timeline :=
  let now := max timeline.now flight.load.finish
  let loaded := timeline.cache.endLoad flight.entry flight.load.result now
  let (served, waiting) := timeline.waiting.partition (fun caller => caller.entry == flight.entry)
  { timeline with
    now
    cache := served.foldl (fun cache caller => cache.leave caller.user caller.entry) loaded
    waiting }

def landUntil (moment : Moment) : List Flight → Timeline → Timeline
  | [], timeline => { timeline with flights := [] }
  | flight :: flights, timeline =>
    if flight.load.finish ≤ moment then
      landUntil moment flights ((timeline.reapBefore flight.load.finish).land flight)
    else { timeline with flights := flight :: flights }

def waitUntil (timeline : Timeline) (moment : Moment) : Timeline :=
  { (landUntil moment timeline.flights timeline).reapBefore moment with now := moment }

def waitForAll (timeline : Timeline) : Timeline :=
  let last := timeline.flights.foldl (fun last flight => max last flight.load.finish) timeline.now
  landUntil last timeline.flights timeline

/-- Moves the clock on at once; nobody gets to work in between. -/
def jump (timeline : Timeline) (wait : Nat) : Timeline :=
  let now := timeline.now + wait
  let interval := timeline.cache.config.reapInterval.toNat * 1000
  { timeline with now, reapers := timeline.reapers.map (fun due => due.or (some (now + interval))) }

def addFlight (flight : Flight) : List Flight → List Flight
  | [] => [flight]
  | other :: others =>
    if flight.load.finish < other.load.finish then flight :: other :: others
    else other :: addFlight flight others

/-- Begins the load of an entry; one that takes no time ends at once. -/
def launch (timeline : Timeline) (flight : Flight) : Timeline :=
  let timeline := { timeline with cache := timeline.cache.startLoad flight.entry }
  if flight.load.finish ≤ timeline.now then timeline.land flight
  else { timeline with flights := addFlight flight timeline.flights }

/-- A caller asks for the session of a user: it finds an entry, starts the load if
nobody has, and waits unless the result is there. Loads come from `load`. -/
def arrive {World : Type} (timeline : Timeline) (load : String → Moment → World → Load × World)
    (user : String) (world : World) : Caller × Timeline × World :=
  -- Of entries that are equally old that of the first user is the oldest.
  let (entry, cache) := timeline.cache.lookup user timeline.now (fun _ => 0)
  let caller : Caller := { user, entry }
  if cache.isIdle entry then
    let (load, world) := load user timeline.now world
    (caller,
      launch { timeline with cache, waiting := timeline.waiting ++ [caller] } { entry, load },
      world)
  else
    match cache.result? entry with
    | some _ => (caller, { timeline with cache := cache.leave user entry }, world)
    | none => (caller, { timeline with cache, waiting := timeline.waiting ++ [caller] }, world)

def arriveAll {World : Type} (timeline : Timeline)
    (load : String → Moment → World → Load × World) :
    (users : List String) → World → List Caller × Timeline × World
  | [], world => ([], timeline, world)
  | user :: users, world =>
    let (caller, timeline, world) := timeline.arrive load user world
    let (callers, timeline, world) := arriveAll timeline load users world
    (caller :: callers, timeline, world)

/-- A caller asks for the session of the user whom `resolve` names for its context. The
cache is not asked where nobody is named. -/
def sessionFor {World : Type} (timeline : Timeline)
    (load : String → Moment → World → Load × World)
    (resolve : RequestContext → World → Except JmapError String × World)
    (context : RequestContext) (world : World) : Except JmapError Caller × Timeline × World :=
  match resolve context world with
  | (.error error, world) => (.error error, timeline, world)
  | (.ok user, world) =>
    let (caller, timeline, world) := timeline.arrive load user world
    (.ok caller, timeline, world)

def result? (timeline : Timeline) (caller : Caller) : Option (Except JmapError Session) :=
  timeline.cache.result? caller.entry

def invalidate (timeline : Timeline) (user : String) : Bool × Timeline :=
  let (found, cache) := timeline.cache.invalidate user
  (found, { timeline with cache })

def onOutdated (timeline : Timeline) (event : SessionOutdated) : Timeline :=
  { timeline with cache := timeline.cache.onOutdated event }

def reap (timeline : Timeline) : Nat × Timeline :=
  let (count, cache) := timeline.cache.reap timeline.now
  (count, { timeline with cache })

def startReaper (timeline : Timeline) : Bool × Timeline :=
  if timeline.cache.config.reapInterval = 0 then (false, timeline)
  else (true, { timeline with reapers := timeline.reapers ++ [none] })

end Timeline

end Jmap
