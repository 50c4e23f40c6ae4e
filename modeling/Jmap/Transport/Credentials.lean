import Jmap.Base64
import Jmap.Text.Quoted
import Jmap.Text.Utf8

namespace Jmap

inductive Credentials where
  /-- One token for all users. -/
  | bearer (token : String)
  /-- An account that may act for every user. -/
  | master (user password : String)
deriving DecidableEq

namespace Credentials

def authorization (credentials : Credentials) (username : String) : String :=
  match credentials with
  | .bearer token => "Bearer " ++ token
  | .master user password =>
    "Basic " ++ Base64.encode (Utf8.encode (username ++ "%" ++ user ++ ":" ++ password))

/-- All of the credentials but the secrets, on one line. -/
def summary : Credentials → String
  | .bearer _ => "Bearer(..)"
  | .master user _ => "Master \x7b user: " ++ Text.quoteShown user ++ ", .. \x7d"

end Credentials

end Jmap
