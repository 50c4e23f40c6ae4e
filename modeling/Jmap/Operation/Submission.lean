import Jmap.Operation

namespace Jmap

open Json

structure MoveMail where
  source : String
  target : String
deriving DecidableEq

structure SubmittedEmail where
  submission : EmailSubmission
  /-- The state after the update of the message, if that was carried out. -/
  emailState : Option State
deriving DecidableEq

structure Identities where
  identities : List Identity
  state : State
deriving DecidableEq

namespace Operation

def sentPatch (move : Option MoveMail) : List (String × Json) :=
  [("keywords/$draft", .null), ("keywords/$seen", .bool true)] ++
    match move with
    | some move =>
      if move.source = move.target then []
      else
        [("mailboxIds/" ++ move.source, .null), ("mailboxIds/" ++ move.target, .bool true)]
    | none => []

/-- The state after the update of a sent message. An update that failed as a whole
is passed over, since the message is on its way by then. -/
def decodeUpdate (emailId : String) (response : Response) : Except JmapError (Option State) :=
  match response.get .emailSet "0" with
  | .ok result =>
    match (result.notUpdated.getD .empty).find? emailId with
    | some error => .error (.set "Email" emailId error)
    | none => .ok result.newState
  | .error (.method _) => .ok none
  | .error error => .error error

/-- Sends a message. The server updates it on its own and reports that under the
tag of the submission. -/
def submitEmail (session : Session) (account identityId emailId : String)
    (move : Option MoveMail) : Operation SubmittedEmail where
  invocations :=
    let account := session.resolveSubmission account
    [.of .submissionSet account "0"
        [("create", .ofMembers [("s0", .ofMembers
          [("identityId", .str identityId), ("emailId", .str emailId)])]),
          ("onSuccessUpdateEmail", .ofMembers [("#s0", .ofMembers (sentPatch move))])],
      .of .submissionGet account "1" [("ids", Wire.write ["#s0"])]]
  decode response := do
    let result ← response.get .submissionSet "0"
    let created ← result.outcome "EmailSubmission" "s0"
    let emailState ← decodeUpdate emailId response
    let fetched ← response.get .submissionGet "1"
    .ok { submission := fetched.list.headD created, emailState }

def getIdentities (session : Session) (account : String) : Operation Identities where
  invocations := [.of .identityGet (session.resolveMail account) "0" []]
  decode response := do
    let result ← response.get .identityGet "0"
    .ok { identities := result.list, state := result.state }

def vacationId : String := "singleton"

def getVacationResponse (session : Session) (account : String) :
    Operation (Option VacationResponse) where
  invocations :=
    [.of .vacationGet (session.resolveMail account) "0" [("ids", Wire.write [vacationId])]]
  decode response := do
    let result ← response.get .vacationGet "0"
    .ok result.list.head?

/-- Replaces the vacation response and reads back what the server has made of it. -/
def setVacationResponse (session : Session) (account : String) (vacation : VacationResponse) :
    Operation VacationResponse where
  invocations :=
    let account := session.resolveMail account
    [.of .vacationSet account "0"
        [("update", .ofMembers [(vacationId, Wire.write { vacation with id := none })])],
      .of .vacationGet account "1" [("ids", Wire.write [vacationId])]]
  decode response := do
    let result ← response.get .vacationSet "0"
    match (result.notUpdated.getD .empty).find? vacationId with
    | some error => .error (.set "VacationResponse" vacationId error)
    | none =>
      let fetched ← response.get .vacationGet "1"
      match fetched.list.head? with
      | some vacation => .ok vacation
      | none => .error (.invalidResponse .noVacationResponse)

end Operation

end Jmap
