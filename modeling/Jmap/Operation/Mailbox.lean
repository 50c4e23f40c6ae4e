import Jmap.Operation

namespace Jmap

open Json

structure Mailboxes where
  mailboxes : List Mailbox
  notFound : List String
  state : State
deriving DecidableEq

namespace Operation

def getMailboxes (session : Session) (account : String) (ids : Option (List String)) :
    Operation Mailboxes where
  invocations := [.of .mailboxGet (session.resolveMail account) "0" [("ids", Wire.write ids)]]
  decode response := do
    let result ← response.get .mailboxGet "0"
    .ok { mailboxes := result.list, notFound := result.notFound, state := result.state }

def getAllMailboxes (session : Session) (accounts : List String) :
    Operation (Dict (List Mailbox)) :=
  forAccounts (session.mailAccounts accounts)
    (fun account => [.of .mailboxGet account (accountTag account "0") []])
    (fun account response => do
      let result ← response.get .mailboxGet (accountTag account "0")
      .ok result.list)

def searchMailboxes (session : Session) (accounts : List String) (filter : MailboxFilter) :
    Operation (Dict (List Mailbox)) :=
  forAccounts (session.mailAccounts accounts)
    (fun account =>
      [.of .mailboxQuery account (accountTag account "0") [("filter", Wire.write filter)],
        .of .mailboxGet account (accountTag account "1")
          [idsOf (accountTag account "0") .mailboxQuery "/ids"]])
    (fun account response => do
      let result ← response.get .mailboxGet (accountTag account "1")
      .ok result.list)

end Operation

end Jmap
