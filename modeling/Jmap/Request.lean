import Jmap.Invocation
import Jmap.Json.Printer

/-!
Requests: batches of invocations that the server carries out in order. A batch
becomes a request if its tags are distinct and each reference in it points at an
earlier invocation.
-/

namespace Jmap

open Json

structure Request where
  capabilities : List Capability
  invocations : List Invocation
  createdIds : Option (Dict String)
deriving DecidableEq

namespace Request

abbrev slots : List Slot :=
  [.required "using" (List Capability), .required "methodCalls" (List Invocation),
    .optional "createdIds" (Dict String)]

instance : Wire Request :=
  .record "Request" slots
    (fun (capabilities, invocations, createdIds, ()) =>
      { capabilities, invocations, createdIds })
    (fun request => (request.capabilities, request.invocations, request.createdIds, ()))

def invocation? (request : Request) (tag : String) : Option Invocation :=
  request.invocations.find? (fun invocation => invocation.tag == tag)

/-- The accounts that the invocations name, each once, in order of their first
mention. -/
def accountIds (request : Request) : List String :=
  (request.invocations.filterMap (·.accountId?)).eraseDups

/-- The text to send: the members in the order of their slots. -/
def render (request : Request) : String := Json.render (.obj (Row.members slots
  (request.capabilities, request.invocations, request.createdIds, ())))

def ofBytes? (bytes : Utf8.Bytes) : Read Request := (Outline.ofBytes bytes).read Request

end Request

/-- Invocations to be sent together, at most `maxCalls` if there is a bound. -/
structure Batch where
  invocations : List Invocation
  maxCalls : Option UInt64 := none
  createdIds : Option (Dict String) := none

namespace Batch

def underTag? (tag : String) (invocations : List Invocation) : Option Invocation :=
  invocations.find? (fun invocation => invocation.tag == tag)

/-- The name of the argument that a key refers to, if it is the key of a
reference. -/
def plainKey? (key : String) : Option String :=
  match key.toList with
  | '#' :: plain => some (String.ofList plain)
  | _ => none

def checkReference (earlier : List Invocation) (tag : String) (reference : ResultReference) :
    Except RequestProblem Unit :=
  match underTag? reference.resultOf earlier with
  | none => .error (.notEarlier tag reference.resultOf)
  | some target =>
    if target.method = reference.name then
      if reference.path.toList.head? = some '/' then .ok ()
      else .error (.relativePath reference.path)
    else .error (.otherMethod tag reference.name reference.resultOf target.method)

/-- An argument whose key begins with a hash is a reference in place of the
argument without it. -/
def checkArgument (earlier : List Invocation) (invocation : Invocation)
    (argument : String × Json) : Except RequestProblem Unit :=
  match plainKey? argument.1 with
  | none => .ok ()
  | some plain =>
    if invocation.arguments.contains plain then
      .error (.setTwice invocation.tag plain argument.1)
    else
      match read? ResultReference argument.2 with
      | .error error => .error (.malformedReference argument.1 invocation.tag error)
      | .ok reference => checkReference earlier invocation.tag reference

def checkArguments (earlier : List Invocation) (invocation : Invocation) :
    List (String × Json) → Except RequestProblem Unit
  | [] => .ok ()
  | argument :: arguments => do
    checkArgument earlier invocation argument
    checkArguments earlier invocation arguments

def checkInvocations (earlier : List Invocation) :
    List Invocation → Except RequestProblem Unit
  | [] => .ok ()
  | invocation :: invocations => do
    checkArguments earlier invocation invocation.arguments.entries
    if (underTag? invocation.tag earlier).isSome then
      .error (.repeatedTag invocation.tag)
    else checkInvocations (earlier ++ [invocation]) invocations

/-- The server runs companions under the capabilities of their own methods. -/
def uses (invocation : Invocation) (capability : Capability) : Bool :=
  invocation.method.capability == capability ||
    invocation.method.companions.any (fun companion => companion.capability == capability)

/-- The core and all capabilities in use, in increasing order. -/
def capabilities (invocations : List Invocation) : List Capability :=
  Capability.all.filter (fun capability =>
    capability == .core || invocations.any (fun invocation => uses invocation capability))

def build (batch : Batch) : Except JmapError Request :=
  if batch.invocations.isEmpty then .error (.invalidRequest .noInvocations)
  else
    let accepted : Except JmapError Request :=
      match checkInvocations [] batch.invocations with
      | .error problem => .error (.invalidRequest problem)
      | .ok () =>
        .ok
          { capabilities := capabilities batch.invocations
            invocations := batch.invocations
            createdIds := batch.createdIds }
    match batch.maxCalls with
    | none => accepted
    | some most =>
      if most.toNat < batch.invocations.length then
        .error (.tooManyCalls batch.invocations.length most)
      else accepted

end Batch

end Jmap
