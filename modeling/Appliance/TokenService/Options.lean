import Appliance.Certificate
import Appliance.Duration

/-!
# Token service options

How to talk to the token service.
-/

namespace Appliance.TokenService

/-- How to talk to the token service. -/
structure Options where
  /-- Whether the appliance's certificate goes unchecked. -/
  ignoreCertificates : Bool
  /-- The time in which a request must be answered. -/
  timeout : Duration
  /-- The lifetime of a token whose answer states none. -/
  defaultLifetime : Duration
  /-- Where certificates are found by thumbprint. -/
  store : Option Certificate.Store

namespace Options

/-- The options unless others are chosen. -/
def standard : Options where
  ignoreCertificates := false
  timeout := Duration.ofSeconds 30
  defaultLifetime := Duration.ofSeconds 3600
  store := none

/-- A truth value in diagnostics. -/
def boolText (b : Bool) : String := if b then "true" else "false"

/-- The diagnostic text. -/
def debug (o : Options) : String :=
  Credential.recordText "ConnectOptions"
    [("ignore_ssl", boolText o.ignoreCertificates), ("timeout", o.timeout.text),
      ("default_token_lifetime", o.defaultLifetime.text),
      ("certificate_store", boolText o.store.isSome)]

end Options

end Appliance.TokenService
