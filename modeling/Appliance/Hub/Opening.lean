import Appliance.Fault
import Appliance.Hub.Channel
import Appliance.WebSocket.Upgrade

/-!
# Opening a channel

A channel opens in three moments: the token is put into a header, the server
agrees to change the protocol, and the hub answers the handshake. Until the hub
has answered, other messages are passed over. All of it must happen within the
handshake timeout.

* `bearer`        : the header that presents a token
* `upgradeFault?` : what the server's answer to the request means
* `greet`         : what a message means before the hub has answered
* `Opening`       : how far an opening has come, and its steps
-/

namespace Appliance.Hub

/-- Whether a character may stand in the header of a request that is sent. Some others, from
code 128 on, may stand in a header as such and are refused when the request is written; that
fault is another one, of the websocket, which may pass by itself as well. Here all of them are
refused at once. -/
def isHeaderChar (c : Char) : Bool := c = '\t' || (32 ≤ c.toNat && c.toNat < 127)

/-- The header that presents a token. -/
def bearer (token : String) : Except Fault String :=
  if token.toList.all isHeaderChar then .ok ("Bearer " ++ token)
  else .error (.protocol (.malformedResponse
    "access token contains characters not allowed in a header"))

/-- What the server's answer to the request means, unless the websocket is open. -/
def upgradeFault? : WebSocket.Answer → Option Fault
  | .upgraded => none
  | .refused status =>
    if status = 401 ∨ status = 403 then some (.auth (.tokenRefused status))
    else some (.protocol (.handshake ("upgrade rejected with HTTP " ++ toString status)))
  | .unusable => some (.transport (.webSocket "no websocket answer"))
  | .notEncrypted => some (.transport (.tls "no encrypted connection"))
  | .unreachable => some (.transport (.connection "no connection"))

/-- What a message means before the hub has answered. -/
inductive Greeting where
  | waiting
  /-- The hub agrees; records that came together with its answer are still to be handled. -/
  | opened (pending : List String)
  | failed (f : Fault)

/-- What a message means before the hub has answered. -/
def greet : Except WebSocket.Flaw WebSocket.Message → Greeting
  | .error flaw => .failed (.transport (.webSocket flaw.message))
  | .ok (.text s) =>
    match split s with
    | [] => .waiting
    | answer :: pending =>
      match checkHandshake answer with
      | .ok _ => .opened pending
      | .error refusal => .failed (.protocol (.handshake refusal.message))
  | .ok (.close notice) =>
    .failed (.protocol (.handshake ("closed during handshake: " ++
      (notice.map WebSocket.CloseNotice.reason).getD "without a reason")))
  | .ok _ => .waiting

/-- The fault of an opening that takes too long. -/
def openingTimeout (options : Listener.Options) : Fault :=
  .transport (.timeout options.handshakeTimeout.millis)

/-- How far an opening has come. -/
inductive Opening where
  /-- The server has still to answer the request for a websocket. -/
  | upgrading
  /-- The hub has still to answer the handshake. -/
  | greeting
  /-- The channel is open; records that came with the hub's answer are still to be handled. -/
  | opened (pending : List String)
  | failed (f : Fault)

namespace Opening

/-- What an opening takes. -/
inductive Input where
  /-- The request for a websocket was answered. -/
  | answered (a : WebSocket.Answer)
  | received (r : Except WebSocket.Flaw WebSocket.Message)
  /-- The connection fails. -/
  | broke (f : TransportFault)
  /-- The handshake timeout is over. -/
  | late

/-- An opening that presents a token. -/
def begin (token : String) : Opening :=
  match bearer token with
  | .ok _ => .upgrading
  | .error f => .failed f

/-- One input. An opening that has succeeded or failed takes nothing more. -/
def step (options : Listener.Options) : Opening → Input → Opening
  | .upgrading, .answered a =>
    match upgradeFault? a with
    | some f => .failed f
    | none => .greeting
  | .greeting, .received r =>
    match greet r with
    | .waiting => .greeting
    | .opened pending => .opened pending
    | .failed f => .failed f
  | .upgrading, .broke f | .greeting, .broke f => .failed (.transport f)
  | .upgrading, .late | .greeting, .late => .failed (openingTimeout options)
  | o, _ => o

/-- Many inputs. -/
def run (options : Listener.Options) (o : Opening) (inputs : List Input) : Opening :=
  inputs.foldl (step options) o

end Opening

/-- Every fault of an opening may pass by itself. -/
theorem isTransient_of_upgradeFault? {a : WebSocket.Answer} {f : Fault}
    (h : upgradeFault? a = some f) : f.isTransient = true := by
  cases a <;> simp only [upgradeFault?] at h
  case refused status =>
    split at h <;> (injection h with h; subst h; rfl)
  all_goals first | (injection h with h; subst h; rfl) | simp at h

end Appliance.Hub
