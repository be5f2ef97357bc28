import Appliance.Credential
import Appliance.Json.Value

/-!
# Grants

What a token is asked for with: a user name and password, or nothing but the
certificate that the connection presents; and the scope in either case.

* `Grant`        : the two kinds
* `Grant.fields` : the members of its JSON text, in order
* `Grant.text`   : its JSON text
-/

namespace Appliance.TokenService

/-- What a token is asked for with. -/
inductive Grant where
  | certificate (scope : String)
  | password (username password scope : String)
deriving DecidableEq

namespace Grant

/-- The members of the JSON text, in order. -/
def fields : Grant → List (String × String)
  | .certificate scope => [("grant_type", "client_credentials"), ("scope", scope)]
  | .password username secret scope =>
    [("grant_type", "password"), ("username", username), ("password", secret),
      ("scope", scope)]

/-- The JSON text. -/
def text (g : Grant) : String :=
  String.ofList (Json.Value.chars (.object (g.fields.map fun f => (f.1, .string f.2))))

/-- The diagnostic text, without the password. -/
def debug : Grant → String
  | .certificate scope =>
    Credential.recordText "ClientCredentials" [("scope", Text.quoted scope)]
  | .password username _ scope =>
    Credential.recordText "Password"
      [("username", Text.quoted username), ("password", Credential.hidden),
        ("scope", Text.quoted scope)]

end Grant

end Appliance.TokenService
