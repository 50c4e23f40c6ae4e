import Jmap.Error.Http

/-!
Contexts of calls: until when a caller waits for an answer, and in which
language it is wanted. A context stops at its deadline or when it is cancelled,
and what runs under it ends no later.
-/

namespace Jmap

/-- A moment in time, in milliseconds of a clock that starts at zero. -/
abbrev Moment := Nat

namespace Moment

/-- The clock counts seconds in 63 bits. -/
def limit : Nat := 9223372036854775808 * 1000

def after? (now : Moment) (wait : Nat) : Option Moment :=
  if now + wait < limit then some (now + wait) else none

/-- The first of two moments, either of which may never come. -/
def earliest : Option Moment → Option Moment → Option Moment
  | none, other => other
  | moment, none => moment
  | some left, some right => some (min left right)

def reached (moment : Option Moment) (now : Moment) : Bool :=
  match moment with
  | some moment => decide (moment ≤ now)
  | none => false

end Moment

inductive Stop where
  | cancelled
  | expired
deriving DecidableEq, Repr

def Stop.error : Stop → HttpError
  | .cancelled => HttpError.cancelled
  | .expired => HttpError.timeout

structure RequestContext where
  cancelledAt : Option Moment := none
  deadline : Option Moment := none
  language : Option String := none
deriving DecidableEq, Repr

/-- Something that takes a while, or goes on for ever, and then has a result. -/
structure Work (α : Type) where
  wait : Option Nat
  result : Except HttpError α

namespace RequestContext

/-- There is no such context if the clock cannot reach the deadline. -/
def withTimeout? (context : RequestContext) (now : Moment) (timeout : Nat) :
    Option RequestContext :=
  (now.after? timeout).map (fun deadline => { context with deadline := some deadline })

/-- A context that lasts for a given time from now, or for ever. -/
def lasting? (timeout : Option Nat) (now : Moment) : Option RequestContext :=
  match timeout with
  | none => some {}
  | some timeout => withTimeout? {} now timeout

def cancel (context : RequestContext) (moment : Moment) : RequestContext :=
  { context with cancelledAt := Moment.earliest context.cancelledAt (some moment) }

/-- Why a context has stopped, if it has. Of two causes cancellation counts. -/
def stop? (context : RequestContext) (now : Moment) : Option Stop :=
  if Moment.reached context.cancelledAt now then some .cancelled
  else if Moment.reached context.deadline now then some .expired
  else none

def stopsAt? (context : RequestContext) : Option Moment :=
  Moment.earliest context.cancelledAt context.deadline

def check (context : RequestContext) (now : Moment) : Except HttpError Unit :=
  match context.stop? now with
  | some stop => .error stop.error
  | none => .ok ()

/-- Waits for work to end, but no longer than the context lasts. The result, with
the moment at which it is there; nothing if that never comes. Work is not begun
once the context has stopped. -/
def run {α : Type} (context : RequestContext) (now : Moment) (work : Work α) :
    Option (Moment × Except HttpError α) :=
  match context.stop? now with
  | some stop => some (now, .error stop.error)
  | none =>
    match Moment.earliest context.stopsAt? (work.wait.map (now + ·)) with
    | none => none
    | some moment =>
      match context.stop? moment with
      | some stop => some (moment, .error stop.error)
      | none => some (moment, work.result)

end RequestContext

end Jmap
