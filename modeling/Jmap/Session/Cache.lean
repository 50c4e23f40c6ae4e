import Jmap.Config
import Jmap.Session
import Jmap.Session.Listeners

/-!
Sessions kept by user. An entry is made for the first caller that asks for a
user; its session is loaded once, and all callers that have found the entry wait
for that load. Entries expire a fixed time after their load has ended; reading
them makes no difference.

Each operation takes effect at once. The lock around the entries and the tasks of
callers, loads and reapers are left out; the order in which they come is anybody's.
-/

namespace Jmap

structure Loaded where
  result : Except JmapError Session
  moment : Moment

inductive LoadStage where
  | idle
  | loading
  | loaded (loaded : Loaded)

structure CacheEntry where
  user : String
  created : Moment
  stage : LoadStage := .idle

/-- Entries are known by the order in which they were made. One that is no longer
in use remains for the callers that have found it. -/
structure SessionCache where
  config : CacheConfig
  made : List CacheEntry := []
  current : Dict Nat := .empty

namespace SessionCache

def size (cache : SessionCache) : Nat := cache.current.size

def isEmpty (cache : SessionCache) : Bool := cache.current.isEmpty

/-- The cache has room for one entry at least. -/
def capacity (cache : SessionCache) : Nat := max cache.config.maxCapacity.toNat 1

def numbered? (cache : SessionCache) (number : Nat) : Option CacheEntry := cache.made[number]?

/-- For how long a result is kept, in milliseconds. -/
def lifetime (cache : SessionCache) (result : Except JmapError Session) : Nat :=
  match result with
  | .ok _ => cache.config.ttl.toNat * 1000
  | .error _ => cache.config.failureTtl.toNat * 1000

/-- An entry that is still loading does not expire, nor does one whose time runs out
beyond the range of the clock. -/
def isExpired (cache : SessionCache) (entry : CacheEntry) (now : Moment) : Bool :=
  match entry.stage with
  | .loaded loaded =>
    Moment.reached (loaded.moment.after? (cache.lifetime loaded.result)) now
  | _ => false

def isOver (cache : SessionCache) (now : Moment) (number : Nat) : Bool :=
  match cache.numbered? number with
  | some entry => cache.isExpired entry now
  | none => false

def usable? (cache : SessionCache) (user : String) (now : Moment) : Option Nat :=
  (cache.current.find? user).filter (fun number => !cache.isOver now number)

def createdAt (cache : SessionCache) (number : Nat) : Moment :=
  ((cache.numbered? number).map (·.created)).getD 0

/-- The older of two entries in use. Of two that are equally old it is the one that a
table of entries happens to list first; `rank` stands for its order. -/
def older (cache : SessionCache) (rank : String → Nat) (left right : String × Nat) :
    String × Nat :=
  if cache.createdAt right.2 < cache.createdAt left.2 ∨
      cache.createdAt right.2 = cache.createdAt left.2 ∧ rank right.1 < rank left.1 then right
  else left

def oldest? (cache : SessionCache) (rank : String → Nat) : Option String :=
  match cache.current.entries with
  | [] => none
  | entry :: entries => some (entries.foldl (cache.older rank) entry).1

def makeRoom (cache : SessionCache) (rank : String → Nat) : SessionCache :=
  if cache.size < cache.capacity then cache
  else
    match cache.oldest? rank with
    | some user => { cache with current := cache.current.erase user }
    | none => cache

def add (cache : SessionCache) (user : String) (now : Moment) : SessionCache :=
  { cache with
    made := cache.made ++ [{ user, created := now }]
    current := cache.current.insert user cache.made.length }

/-- The entry that a caller is to wait for: the one in use, else a new one. -/
def lookup (cache : SessionCache) (user : String) (now : Moment) (rank : String → Nat) :
    Nat × SessionCache :=
  match cache.usable? user now with
  | some number => (number, cache)
  | none =>
    let room := makeRoom { cache with current := cache.current.erase user } rank
    (room.made.length, room.add user now)

def setStage (cache : SessionCache) (number : Nat) (stage : LoadStage) : SessionCache :=
  { cache with made := cache.made.modify number (fun entry => { entry with stage }) }

def isIdle (cache : SessionCache) (number : Nat) : Bool :=
  match cache.numbered? number with
  | some { stage := .idle, .. } => true
  | _ => false

def startLoad (cache : SessionCache) (number : Nat) : SessionCache :=
  cache.setStage number .loading

/-- A load whose caller is gone before its end comes to nothing, and is left to the next
caller again. -/
def abandonLoad (cache : SessionCache) (number : Nat) : SessionCache :=
  cache.setStage number .idle

def endLoad (cache : SessionCache) (number : Nat) (result : Except JmapError Session)
    (now : Moment) : SessionCache :=
  cache.setStage number (.loaded { result, moment := now })

def result? (cache : SessionCache) (number : Nat) : Option (Except JmapError Session) :=
  match cache.numbered? number with
  | some { stage := .loaded loaded, .. } => some loaded.result
  | _ => none

/-- A caller takes a result and goes. A failure that is not to be kept goes with it,
but not an entry that has taken its place. -/
def leave (cache : SessionCache) (user : String) (number : Nat) : SessionCache :=
  match cache.result? number with
  | some (.error _) =>
    if cache.config.failureTtl = 0 ∧ cache.current.find? user = some number then
      { cache with current := cache.current.erase user }
    else cache
  | _ => cache

def invalidate (cache : SessionCache) (user : String) : Bool × SessionCache :=
  (cache.current.contains user, { cache with current := cache.current.erase user })

def onOutdated (cache : SessionCache) (event : SessionOutdated) : SessionCache :=
  (cache.invalidate event.username).2

def reap (cache : SessionCache) (now : Moment) : Nat × SessionCache :=
  let stale := (cache.current.entries.filter (fun entry => cache.isOver now entry.2)).map (·.1)
  let current := stale.foldl (fun current user => current.erase user) cache.current
  (stale.length, { cache with current })

def shownSeconds (seconds : UInt64) : String :=
  if seconds = 0 then "0ns" else toString seconds.toNat ++ "s"

def summary (cache : SessionCache) : String :=
  "SessionCache \x7b entries: " ++ toString cache.size ++
    ", ttl: " ++ shownSeconds cache.config.ttl ++
    ", failure_ttl: " ++ shownSeconds cache.config.failureTtl ++
    ", max_capacity: " ++ toString cache.capacity ++ " \x7d"

end SessionCache

end Jmap
