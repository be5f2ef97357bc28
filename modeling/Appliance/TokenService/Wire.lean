import Appliance.Http.Body
import Appliance.Http.Request
import Appliance.TokenService.Exchange

/-!
# The token service on the wire

How a request of the token service is written, and what the octets mean that
come back until the connection ends.
-/

namespace Appliance.TokenService

/-- A request as it is sent to a server. The connection is used once. -/
def Request.toHttp (r : Request) (authority : String) : Http.Request :=
  let body := Octets.ofText r.body
  { method := "POST"
    target := Http.targetOf r.url
    authority
    fields := [("Accept", acceptedType), ("Content-Type", r.contentType), ("User-Agent", agent),
      ("Content-Length", toString body.length), ("Connection", "close")]
    body }

/-- The response that octets are, unless some of it is missing. -/
def responseOf (octets : Octets) : Except TransportFault Response :=
  match Http.Whole.read octets with
  | some w => .ok ⟨w.head.status, w.body⟩
  | none => .error (.http "connection closed before message completed")

end Appliance.TokenService
