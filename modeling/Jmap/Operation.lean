import Jmap.Request
import Jmap.Response
import Jmap.Session

/-!
Operations: what a caller wants done in one request. An operation is the batch
of invocations that it sends, with the way to read their responses.
-/

namespace Jmap

open Json

structure Operation (α : Type) where
  invocations : List Invocation
  decode : Response → Except JmapError α

namespace Operation

variable {α : Type}

def map {β : Type} (f : α → β) (operation : Operation α) : Operation β where
  invocations := operation.invocations
  decode response := (operation.decode response).map f

/-- The request of an operation, within the bound that the session sets. -/
def request (operation : Operation α) (session : Session) : Except JmapError Request :=
  Batch.build { invocations := operation.invocations, maxCalls := session.maxCallsInRequest }

/-- The same operation in each of several accounts, all in one request: the
results by account. -/
def forAccounts (accounts : List String) (invocations : String → List Invocation)
    (decode : String → Response → Except JmapError α) : Operation (Dict α) where
  invocations := accounts.flatMap invocations
  decode response := do
    let entries ← accounts.mapM (fun account => do
      let value ← decode account response
      .ok (account, value))
    .ok (.ofList entries)

end Operation

namespace Invocation

def of (method : Method) (account tag : String) (arguments : List (String × Json)) :
    Invocation where
  method := method
  arguments := .ofList (("accountId", .str account) :: arguments)
  tag := tag

end Invocation

/-- The ids that an earlier invocation will find stand in for ids that are given. -/
def idsOf (resultOf : String) (name : Method) (path : String) : String × Json :=
  ("#ids", Wire.write (ResultReference.mk resultOf name path))

def accountTag (account tag : String) : String := account ++ ":" ++ tag

namespace Session

/-- The accounts that a caller means for mail, each once, in order of their
first mention. Without any the primary account is meant. -/
def mailAccounts (session : Session) (accounts : List String) : List String :=
  if accounts.isEmpty then [session.resolveMail ""]
  else (accounts.map session.resolveMail).eraseDups

def accountsFor (session : Session) (capability : Capability) (accounts : List String) :
    List String :=
  if accounts.isEmpty then [session.account capability ""]
  else (accounts.map (session.account capability)).eraseDups

end Session

end Jmap
