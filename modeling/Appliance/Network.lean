import Appliance.Hub.Opening
import Appliance.Url.Web
import Appliance.TokenService.Wire
import Std.Async.DNS
import Std.Async.TCP
import Std.Async.Timer

/-!
# The network

Connections to servers, requests to the token service and websockets to the event
hub. Connections are not encrypted; where an address asks for that, connecting
fails.

* `exchange`   : one request to the token service
* `Link.open?` : a websocket whose hub has answered the handshake
* `Link.send`  : sends a frame
-/

namespace Appliance.Network

open Std.Async

/-- The octets of a byte array. -/
def octetsOf (b : ByteArray) : Octets := b.data.toList

/-- The most milliseconds that a timer is set to. -/
def longestTimer : Nat := 1000000000000

/-- A span for the timers of the system, which count milliseconds. -/
def offset (millis : Nat) : Std.Time.Millisecond.Offset := .ofInt (min millis longestTimer)

/-- Runs an action for a span of time at most. -/
def within {α : Type} (span : Duration) (x : Async α) : Async (Option α) :=
  Async.race (some <$> x) do
    sleep (offset span.millisUp)
    return none

/-! ## Connections -/

/-- Host and port as a request names them. -/
def authority (w : Url.Web) : String :=
  w.host.text ++ (w.port.map fun p => ":" ++ toString p).getD ""

/-- The host as the system looks it up. -/
def lookupName (w : Url.Web) : String :=
  String.ofList (w.host.text.toList.filter fun c => c ≠ '[' && c ≠ ']')

/-- A socket of a server. -/
def socketAddress (address : Std.Net.IPAddr) (port : UInt16) : Std.Net.SocketAddress :=
  match address with
  | .v4 a => .v4 ⟨a, port⟩
  | .v6 a => .v6 ⟨a, port⟩

/-- Connects to the first of some addresses that accepts. -/
def connectAny (port : UInt16) : List Std.Net.IPAddr → Async (Except String TCP.Socket.Client)
  | [] => return .error "no address"
  | address :: rest => do
    try
      let client ← TCP.Socket.Client.mk
      client.connect (socketAddress address port)
      return .ok client
    catch e =>
      if rest.isEmpty then return .error (toString e) else connectAny port rest

/-- Connects to the server of a URL. -/
def connect (w : Url.Web) : Async (Except String TCP.Socket.Client) := do
  try
    let addresses ← DNS.getAddrInfo (lookupName w) ""
    connectAny (UInt16.ofNat (w.port.getD (Url.Web.standardPort w.secure))) addresses.toList
  catch e => return .error (toString e)

/-- Sends octets. -/
def sendOctets (client : TCP.Socket.Client) (octets : Octets) : Async Unit :=
  client.send octets.bytes

/-- The most octets that are received at once. -/
def bufferSize : UInt64 := 65536

/-- Receives until the connection ends. -/
partial def receiveAll (client : TCP.Socket.Client) (received : Octets) : Async Octets := do
  match ← client.recv? bufferSize with
  | some bytes => receiveAll client (received ++ octetsOf bytes)
  | none => return received

/-! ## Requests -/

/-- Sends a request on a connection of its own. -/
def post (w : Url.Web) (r : TokenService.Request) :
    Async (Except TransportFault TokenService.Response) := do
  if w.secure then return .error (.connection "encrypted connections are not supported")
  match ← connect w with
  | .error detail => return .error (.connection detail)
  | .ok client =>
    try
      sendOctets client (r.toHttp (authority w)).octets
      return TokenService.responseOf (← receiveAll client [])
    catch e => return .error (.http (toString e))

/-- One request to the token service. -/
def exchange (options : TokenService.Options) (r : TokenService.Request) :
    Async TokenService.Reply := do
  let outcome ← match Url.read r.url.toList with
    | .ok (.web w) => within options.timeout (post w r)
    | _ => pure (some (.error (.connection "no web address")))
  return ⟨← IO.monoNanosNow, outcome.getD (.error (.timeout options.timeout.millis))⟩

/-! ## Websockets -/

/-- An open websocket. -/
structure Link where
  client : TCP.Socket.Client
  reader : WebSocket.Reader

namespace Link

/-- Sends a frame. -/
def send (l : Link) (kind : Nat) (payload : Octets) : Async Unit := do
  let mask ← IO.getRandomBytes 4
  sendOctets l.client (WebSocket.Frame.writeMasked (octetsOf mask) kind payload)

/-- Sends a text. -/
def sendText (l : Link) (text : String) : Async Unit :=
  l.send WebSocket.Frame.text (Octets.ofText text)

/-- Takes octets that were received; there are none at the end of the connection. Pings
are answered. -/
def take (l : Link) (bytes : Option ByteArray) : Async (Link × WebSocket.Received) := do
  match bytes with
  | none => return (l, [.error .cutOff])
  | some bytes =>
    let (reader, received) := l.reader.feed (octetsOf bytes)
    for r in received do
      if let .ok (.ping payload) := r then l.send WebSocket.Frame.pong payload
    return ({ l with reader }, received)

/-- Receives. -/
def receive (l : Link) : Async (Link × WebSocket.Received) := do
  l.take (← l.client.recv? bufferSize)

/-- Receives until the connection ends, and forgets it. -/
partial def drain (l : Link) : Async Unit := do
  if (← l.client.recv? bufferSize).isSome then l.drain

/-- The time in which a websocket closes. -/
def closeTimeout : Duration := Duration.ofSeconds 5

/-- Closes the websocket, and waits for the server to end the connection, but not for long. -/
def close (l : Link) : Async Unit := do
  let _ ← within closeTimeout do
    try
      l.send WebSocket.Frame.close []
      l.drain
    catch _ => return ()

/-- Receives the head of the answer to the request for a websocket, and what follows it. -/
partial def receiveHead (client : TCP.Socket.Client) (received : Octets) :
    Async (Option (Http.Head × Octets)) := do
  match Http.readHead received with
  | .done head rest => return some (head, rest)
  | .bad => return none
  | .early =>
    match ← client.recv? bufferSize with
    | some bytes => receiveHead client (received ++ octetsOf bytes)
    | none => return none

/-- Asks for a websocket. -/
def upgrade (appliance : Address) (bearer : String) :
    Async (Except WebSocket.Answer (Link × WebSocket.Received)) := do
  if appliance.isSecure then return .error .notEncrypted
  match ← connect appliance.web with
  | .error _ => return .error .unreachable
  | .ok client =>
    let key := String.ofList (Text.Base64.encode (octetsOf (← IO.getRandomBytes 16)))
    sendOctets client (WebSocket.upgradeRequest (authority appliance.web)
      (Http.targetOf appliance.eventUrl) key bearer).octets
    match ← receiveHead client [] with
    | none => return .error .unusable
    | some (head, rest) =>
      match WebSocket.answerOf (some (WebSocket.proofOf key)) head with
      | .upgraded => return .ok (← (⟨client, .fresh⟩ : Link).take (some rest.bytes))
      | answer => return .error answer

/-- What a hub has sent by the time that it has answered the handshake: the records that came
with its answer, and what came after. -/
abbrev Greeted := List String × WebSocket.Received

/-- Waits for the hub's answer to the handshake. -/
partial def awaitGreeting (l : Link) : WebSocket.Received → Async (Link × Except Fault Greeted)
  | [] => do
    let (l, received) ← l.receive
    l.awaitGreeting received
  | r :: rest =>
    match Hub.greet r with
    | .waiting => l.awaitGreeting rest
    | .failed f => return (l, .error f)
    | .opened pending => return (l, .ok (pending, rest))

/-- Opens a websocket, and sends the handshake. -/
def greet (appliance : Address) (bearer : String) : Async (Except Fault (Link × Greeted)) := do
  try
    match ← upgrade appliance bearer with
    | .error answer =>
      return .error ((Hub.upgradeFault? answer).getD (.transport (.connection "no connection")))
    | .ok (l, received) =>
      l.sendText Hub.handshakeRequest
      let (l, greeted) ← l.awaitGreeting received
      return greeted.map fun greeted => (l, greeted)
  catch e => return .error (.transport (.connection (toString e)))

/-- A websocket whose hub has answered the handshake in time. -/
def open? (options : Listener.Options) (appliance : Address) (token : String) :
    Async (Except Fault (Link × Greeted)) := do
  match Hub.bearer token with
  | .error f => return .error f
  | .ok bearer =>
    let opened ← within options.handshakeTimeout (greet appliance bearer)
    return opened.getD (.error (Hub.openingTimeout options))

end Link

end Appliance.Network
