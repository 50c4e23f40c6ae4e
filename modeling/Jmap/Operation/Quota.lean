import Jmap.Operation

namespace Jmap

open Json

structure AccountBootstrap where
  identities : List Identity
  quotas : List Quota
deriving DecidableEq

namespace Operation

/-- The quotas of several accounts. Without any the primary account for quotas is
meant; among several the primary account for mail stands in. -/
def getQuotas (session : Session) (accounts : List String) : Operation (Dict (List Quota)) :=
  forAccounts
    (if accounts.isEmpty then [session.account .quota ""] else session.mailAccounts accounts)
    (fun account => [.of .quotaGet account (accountTag account "Q") []])
    (fun account response => do
      let result ← response.get .quotaGet (accountTag account "Q")
      .ok result.list)

def getBootstrap (session : Session) (accounts : List String) :
    Operation (Dict AccountBootstrap) :=
  forAccounts (session.mailAccounts accounts)
    (fun account =>
      [.of .identityGet account (accountTag account "I") [],
        .of .quotaGet account (accountTag account "Q") []])
    (fun account response => do
      let identities ← response.get .identityGet (accountTag account "I")
      let quotas ← response.get .quotaGet (accountTag account "Q")
      .ok { identities := identities.list, quotas := quotas.list })

end Operation

end Jmap
