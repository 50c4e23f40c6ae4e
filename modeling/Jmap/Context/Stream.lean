import Jmap.Context
import Jmap.Text.Utf8

/-!
Bodies that arrive piece by piece. A body bound to a context ends with one error
once the context has stopped; until then its items pass unchanged.
-/

namespace Jmap

/-- A piece of a body, or an error met in place of one. -/
abbrev BodyItem := Except HttpError Utf8.Bytes

/-- What comes next out of a body. -/
inductive Arrival where
  | item (moment : Moment) (value : BodyItem)
  | ended (moment : Moment)
  /-- Neither an item nor an end ever comes. -/
  | silence

namespace Arrival

def moment? : Arrival → Option Moment
  | .item moment _ | .ended moment => some moment
  | .silence => none

end Arrival

/-- A body tells what comes out of it after a number of items. -/
abbrev Body := Nat → Arrival

namespace Body

def arrivals : (now : Moment) → List (Option Nat × BodyItem) → List Arrival
  | now, [] => [.ended now]
  | _, (none, _) :: _ => [.silence]
  | now, (some wait, value) :: items => .item (now + wait) value :: arrivals (now + wait) items

def ofItems (now : Moment) (items : List (Option Nat × BodyItem)) : Body :=
  fun index => ((arrivals now items)[index]?).getD .silence

def whole (now : Moment) (bytes : Utf8.Bytes) : Body := ofItems now [(some 0, .ok bytes)]

end Body

inductive Poll where
  | pending
  | item (value : BodyItem)
  | ended

def Body.look (body : Body) (position : Nat) (now : Moment) : Poll :=
  match body position with
  | .item moment value => if moment ≤ now then .item value else .pending
  | .ended moment => if moment ≤ now then .ended else .pending
  | .silence => .pending

/-- How far a bound body has come. Once the context has stopped, its error has been
found and only the end is left to find. -/
inductive BoundStream.Stage where
  | going
  | stopped
  | closed

/-- A body bound to a context, and after how many items it stands. -/
structure BoundStream where
  context : RequestContext
  body : Body
  position : Nat := 0
  stage : BoundStream.Stage := .going

namespace BoundStream

def behind (stream : BoundStream) : Poll → BoundStream
  | .pending => stream
  | .item _ => { stream with position := stream.position + 1 }
  | .ended => { stream with stage := .closed }

/-- Looks once for the next item. A stop of the context comes before an item that
has arrived. The end is found once: nobody may look behind it, and there is no answer
to those who do. -/
def poll? (stream : BoundStream) (now : Moment) : Option (Poll × BoundStream) :=
  match stream.stage with
  | .going =>
    match stream.context.stop? now with
    | some stop => some (.item (.error stop.error), { stream with stage := .stopped })
    | none =>
      let found := stream.body.look stream.position now
      some (found, stream.behind found)
  | .stopped => some (.ended, stream.behind .ended)
  | .closed => none

def readyAt? (stream : BoundStream) (now : Moment) : Option Moment :=
  match stream.stage with
  | .going =>
    (Moment.earliest stream.context.stopsAt? (stream.body stream.position).moment?).map (max now)
  | .stopped => some now
  | .closed => none

def cancel (stream : BoundStream) (moment : Moment) : BoundStream :=
  { stream with context := stream.context.cancel moment }

/-- Waits for the next items, at most `count` and none behind the end: the items, what is
left of the stream, and the moment at which the last of them was there. -/
def take : (count : Nat) → BoundStream → Moment → List BodyItem × BoundStream × Moment
  | 0, stream, now => ([], stream, now)
  | count + 1, stream, now =>
    match stream.readyAt? now with
    | none => ([], stream, now)
    | some moment =>
      match stream.poll? moment with
      | some (.item value, stream) =>
        let (values, rest) := take count stream moment
        (value :: values, rest)
      | some (_, stream) => ([], stream, moment)
      | none => ([], stream, moment)

/-- The bytes of a stream up to its end, which comes after fewer than `count`
items, or the first error. -/
def collect : (count : Nat) → BoundStream → Moment → Except HttpError Utf8.Bytes
  | count, stream, now => (take count stream now).1.foldlM (fun bytes item =>
    item.map (fun piece => bytes ++ piece)) []

end BoundStream

end Jmap
