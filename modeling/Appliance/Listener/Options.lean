import Appliance.Backoff

/-!
# Listener options

The times that a listener and its channels keep.
-/

namespace Appliance.Listener

/-- The times that a listener and its channels keep. -/
structure Options where
  /-- The waits between attempts. -/
  backoff : Backoff
  /-- The time between two pings of this side. -/
  keepalive : Duration
  /-- The time in which a channel must open. -/
  handshakeTimeout : Duration
  /-- The silence after which a channel counts as lost. -/
  serverTimeout : Duration
  /-- Whether the appliance's certificate goes unchecked. -/
  ignoreCertificates : Bool
deriving DecidableEq

/-- The options unless others are chosen. -/
def Options.standard : Options where
  backoff := Backoff.standard
  keepalive := Duration.ofSeconds 15
  handshakeTimeout := Duration.ofSeconds 30
  serverTimeout := Duration.ofSeconds 30
  ignoreCertificates := false

end Appliance.Listener
