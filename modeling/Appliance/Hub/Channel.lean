import Appliance.Disconnect
import Appliance.Hub.Record
import Appliance.Listener.Options
import Appliance.Token
import Appliance.WebSocket.Message

/-!
# Channels

A channel delivers the events of an open websocket until something ends it: a
close record of the hub, a close of the websocket, a failure, a silence that
lasts too long, or its own user. It then closes the websocket and gives the
reason. It sends pings of its own while it is open.

* `handle`         : what records deliver, and how they end the channel
* `Channel`        : how far a channel has come
* `Channel.begin`  : the channel of a websocket that has just opened
* `Channel.step`   : one input
-/

namespace Appliance.Hub

/-- Why a close record ends a channel. -/
def closeReason (error : Option String) (allowReconnect : Option Bool) : DisconnectReason :=
  match allowReconnect with
  | some false => .permanent (error.getD "server does not allow reconnect")
  | _ => .serverInitiated error

/-- What records deliver, in order, and the reason if one of them ends the channel.
Nothing after that one counts, and one that cannot be read is passed over. -/
def handle : List String → List Event × Option DisconnectReason
  | [] => ([], none)
  | record :: rest =>
    match Message.ofRecord? record with
    | some (.close error allowReconnect) => ([], some (closeReason error allowReconnect))
    | some (.invocation _ events) =>
      let (later, reason) := handle rest
      (events ++ later, reason)
    | _ => handle rest

/-- Why the websocket's close ends a channel. -/
def noticeReason (notice : Option WebSocket.CloseNotice) : DisconnectReason :=
  .serverInitiated ((notice.map WebSocket.CloseNotice.reason).filter (· ≠ ""))

/-- How far a channel has come. -/
inductive Channel where
  /-- It delivers events, until the silence lasts too long. -/
  | listening (pingDue silenceDue : Instant)
  /-- It closes the websocket. -/
  | leaving (reason : DisconnectReason)
  /-- It has given the reason. -/
  | over (reason : DisconnectReason)
  /-- It broke off without a reason. -/
  | broken
deriving DecidableEq

namespace Channel

/-- What goes in. -/
inductive Input where
  | received (m : WebSocket.Message)
  | failed (detail : String)
  /-- Nothing more will be received. -/
  | ended
  /-- The user closes the channel or gives it up. -/
  | shutdown
  /-- Time has passed. -/
  | tick
  /-- The websocket is closed, or that took too long. -/
  | socketClosed

/-- What comes out. -/
inductive Effect where
  | deliver (e : Event)
  | send (record : String)
  | closeSocket
  | notify (reason : DisconnectReason)
  /-- The channel is gone without having given a reason. -/
  | breakOff

/-- A channel with what it does. -/
abbrev Move := Channel × List Effect

/-- A channel that broke off. -/
def breaking : Move := (.broken, [.breakOff])

/-- Ends the channel. -/
def leave (reason : DisconnectReason) : Move := (.leaving reason, [.closeSocket])

/-- How late a ping may be without moving those after it. -/
def tolerance : Nat := 5 * Duration.nanosPerMilli

/-- A time that counts as never, as seen from now. -/
def never (now : Instant) : Instant := now + 30 * 365 * 86400 * Duration.nanosPerSecond

/-- The instant after a span, unless it cannot be told. -/
def after? (now : Instant) (d : Duration) : Option Instant :=
  if now + d.nanos < Instant.horizon then some (now + d.nanos) else none

/-- The instant after a span, or one that counts as never. -/
def afterOrNever (now : Instant) (d : Duration) : Instant := (after? now d).getD (never now)

/-- Goes on after records were handled. -/
def settle (stays : Channel) (handled : List Event × Option DisconnectReason) : Move :=
  let delivered := handled.1.map Effect.deliver
  match handled.2 with
  | none => (stays, delivered)
  | some reason => let (c, effects) := leave reason; (c, delivered ++ effects)

/-- Begins to listen. A span of nothing between pings cannot be kept. -/
def listen (options : Listener.Options) (now : Instant) : Move :=
  match after? now options.keepalive with
  | none => breaking
  | some pingDue =>
    if options.keepalive.nanos = 0 then breaking
    else (.listening pingDue (afterOrNever now options.serverTimeout), [])

/-- The channel of a websocket that has just opened, given the records that came together
with the answer of the hub. -/
def begin (options : Listener.Options) (now : Instant) (pending : List String) : Move :=
  let (events, reason) := handle pending
  let delivered := events.map Effect.deliver
  let (c, effects) := match reason with
    | some reason => leave reason
    | none => listen options now
  (c, delivered ++ effects)

/-- Takes a message. -/
def receive (stays : Channel) : WebSocket.Message → Move
  | .text s => settle stays (handle (split s))
  | .close notice => leave (noticeReason notice)
  | .binary _ | .ping _ | .pong _ => (stays, [])

/-- Does what is due. -/
def tick (options : Listener.Options) (now pingDue silenceDue : Instant) : Move :=
  if silenceDue ≤ now then leave (.transportError "server timeout")
  else if pingDue ≤ now then
    let base := if pingDue + tolerance < now then now else pingDue
    (.listening (afterOrNever base options.keepalive) silenceDue, [.send pingRecord])
  else (.listening pingDue silenceDue, [])

/-- One input. Whatever is received ends the silence. -/
def step (options : Listener.Options) (now : Instant) (c : Channel) (input : Input) : Move :=
  match c, input with
  | .listening pingDue _, .received m =>
    match after? now options.serverTimeout with
    | some silenceDue => receive (.listening pingDue silenceDue) m
    | none => breaking
  | .listening _ _, .failed detail => leave (.transportError detail)
  | .listening _ _, .ended => leave (.transportError "connection closed")
  | .listening _ _, .shutdown =>
    let (c, effects) := leave .graceful
    (c, .send closeRecord :: effects)
  | .listening pingDue silenceDue, .tick => tick options now pingDue silenceDue
  | .leaving reason, .socketClosed => (.over reason, [.notify reason])
  | c, _ => (c, [])

/-- When the channel acts next by itself. -/
def due? : Channel → Option Instant
  | .listening pingDue silenceDue => some (min pingDue silenceDue)
  | _ => none

end Channel

end Appliance.Hub
