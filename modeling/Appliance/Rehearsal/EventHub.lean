import Appliance.Address
import Appliance.Hub.Opening
import Appliance.Rehearsal.Counterpart
import Appliance.Subscriptions

/-!
# Rehearsing a channel

A channel is opened to a hub that follows a script, and then the hub, the
channel's user and the clock act in turn. Nothing but the clock takes time.

* `EventHub`         : a channel, its websocket, and what was seen on both sides
* `EventHub.open`    : the opening
* `EventHub.perform` : one step after it
-/

namespace Appliance.Rehearsal

open Hub (Channel)

/-- What a scripted hub does on the connection. -/
inductive HubAction where
  | sends (octets : Octets)
  /-- It ends the connection. -/
  | drops

/-- How a scripted hub answers the request for a websocket. -/
inductive HubUpgrade where
  | agrees
  /-- It sends octets and ends the connection. -/
  | answers (octets : Octets)
  | silent

/-- The answer of a hub that only states a status. -/
def HubUpgrade.status (n : Nat) : HubUpgrade :=
  .answers (Http.ascii ("HTTP/1.1 " ++ toString n ++ " Status\r\n\r\n"))

/-- How far the client has come. -/
inductive ClientStage where
  | opening (o : Hub.Opening)
  | opened (c : Channel)

/-- A channel, its websocket, and what was seen. -/
structure EventHub where
  options : Listener.Options
  now : Millis
  reader : WebSocket.Reader
  /-- Whether the hub has ended the connection. -/
  gone : Bool
  stage : ClientStage
  subscriptions : Subscriptions Handler
  traces : List Trace
  /-- The texts that the hub has received. -/
  sent : List String
  /-- The pongs that the hub has received. -/
  pongs : List Octets
  /-- Whether the hub has seen the websocket close. -/
  closeSeen : Bool
  /-- The reason that the channel's user has received. -/
  told : Option DisconnectReason

/-- A step after the opening. -/
inductive HubStep where
  | act (a : HubAction)
  | advance (time : Millis)
  /-- The user closes the channel or gives it up. -/
  | close
  | subscribe (op : Operation)

namespace EventHub

/-- Performs an operation on the handlers. -/
def subscribe (w : EventHub) (op : Operation) : EventHub × Answer :=
  let p := w.subscriptions.perform op
  ({ w with subscriptions := p.subscriptions, traces := w.traces ++ p.traces }, p.answer)

/-- Performs an effect of the channel. -/
def act (w : EventHub) : Channel.Effect → EventHub
  | .deliver e => (w.subscribe (.dispatch e)).1
  | .send record => { w with sent := w.sent ++ [record] }
  | .closeSocket => { w with closeSeen := w.closeSeen || !w.gone }
  | .notify reason => { w with told := some reason }
  | .breakOff => { w with told := some .dropped }

/-- Makes a move of the channel. A websocket closes at once. -/
def move (w : EventHub) (m : Channel.Move) : EventHub :=
  let w := m.2.foldl act { w with stage := .opened m.1 }
  match m.1 with
  | .leaving _ =>
    let m := m.1.step w.options (instant w.now) .socketClosed
    m.2.foldl act { w with stage := .opened m.1 }
  | _ => w

/-- Gives the channel an input. -/
def feed (w : EventHub) (input : Channel.Input) : EventHub :=
  match w.stage with
  | .opened c => w.move (c.step w.options (instant w.now) input)
  | _ => w

/-- Whether the client still receives. -/
def isReceiving (w : EventHub) : Bool :=
  match w.stage with
  | .opening .greeting => true
  | .opened (.listening _ _) => true
  | _ => false

/-- Gives the opening an input, and begins with the channel once it is open. -/
def proceed (w : EventHub) (input : Hub.Opening.Input) : EventHub :=
  match w.stage with
  | .opening o =>
    match o.step w.options input with
    | .opened pending => w.move (Channel.begin w.options (instant w.now) pending)
    | o => { w with stage := .opening o }
  | .opened _ => w

/-- Answers a ping. -/
def answerPing (w : EventHub) : Except WebSocket.Flaw WebSocket.Message → EventHub
  | .ok (.ping payload) => { w with pongs := w.pongs ++ [payload] }
  | _ => w

/-- The client receives something. -/
def receive (w : EventHub) (r : Except WebSocket.Flaw WebSocket.Message) : EventHub :=
  if !w.isReceiving then w
  else
    let w := w.answerPing r
    match w.stage with
    | .opening _ => w.proceed (.received r)
    | .opened _ =>
      match r with
      | .ok m => w.feed (.received m)
      | .error flaw => w.feed (.failed flaw.message)

/-- The hub does something. -/
def hubActs (w : EventHub) (a : HubAction) : EventHub :=
  if w.gone then w
  else match a with
    | .drops => { w with gone := true }.receive (.error .cutOff)
    | .sends octets =>
      let (reader, received) := w.reader.feed octets
      received.foldl receive { w with reader }

/-- The channel does what is due up to a moment. -/
def settle (limit : Millis) : Nat → EventHub → EventHub
  | 0, w => w
  | fuel + 1, w =>
    match w.stage with
    | .opened c =>
      match c.due? with
      | some due =>
        let time := (Duration.ofNanos due).millisUp
        if time ≤ limit then settle limit fuel ({ w with now := max w.now time }.feed .tick) else w
      | none => w
    | _ => w

/-- Time passes. A channel acts at most twice in a millisecond. -/
def advance (w : EventHub) (time : Millis) : EventHub :=
  let limit := w.now + time
  { settle limit (2 * time + 2) w with now := limit }

/-- One step, with the answer of an operation on the handlers. -/
def perform (w : EventHub) (step : HubStep) : EventHub × Option Answer :=
  let w := { w with traces := [], sent := [], pongs := [], told := none }
  match step with
  | .act a => ((w.hubActs a).advance 0, none)
  | .advance time => (w.advance time, none)
  | .close => ((w.feed .shutdown).advance 0, none)
  | .subscribe op => let (w, a) := w.subscribe op; (w, some a)

/-- Performs steps in order and returns what each leaves. -/
def rehearse : EventHub → List HubStep → List (EventHub × Option Answer)
  | _, [] => []
  | w, step :: rest =>
    let (w', a) := w.perform step
    (w', a) :: rehearse w' rest

/-! ## The opening -/

/-- How a hub is reached, and what it does while a channel opens. -/
structure Script where
  /-- The port that it listens on. -/
  port : Nat
  upgrade : HubUpgrade
  /-- What it does once it has received the handshake request. -/
  greeting : List HubAction

/-- The server's answer to the request for a websocket, unless there is none. -/
def Script.answer? (s : Script) (appliance : Address) : Option WebSocket.Answer :=
  if !Server.listensAt s.port appliance.web then some .unreachable
  else if appliance.isSecure then some .notEncrypted
  else match s.upgrade with
    | .agrees => some .upgraded
    | .answers octets => some (WebSocket.judge octets)
    | .silent => none

/-- What an opening has led to. -/
structure Opened where
  world : EventHub
  /-- The header with the token as the hub has read it, if it opened the websocket. -/
  header : Option String
  result : Except Fault Unit

/-- A header as it is read: blanks at its end do not count. -/
def readHeader (header : String) : String :=
  String.ofList (header.toList.reverse.dropWhile fun c => c = ' ' || c = '\t').reverse

/-- The world in which a channel opens. -/
def before (options : Listener.Options) (subscriptions : Subscriptions Handler) : EventHub where
  options; subscriptions
  now := 0
  reader := .fresh
  gone := false
  stage := .opening .upgrading
  traces := []
  sent := []
  pongs := []
  closeSeen := false
  told := none

/-- Opens a channel, and lets some time pass. -/
def «open» (w : EventHub) (appliance : Address) (token : String) (s : Script) (time : Millis) :
    Opened :=
  let answer := if w.options.handshakeTimeout.nanos = 0 then none else s.answer? appliance
  let w := { w with stage := .opening (.begin token) }.proceed
    (match answer with
      | some a => .answered a
      | none => .late)
  match w.stage with
  | .opening (.failed f) => ⟨w, none, .error f⟩
  | _ =>
    let header := (Hub.bearer token).toOption.map readHeader
    let w := s.greeting.foldl hubActs { w with sent := w.sent ++ [Hub.handshakeRequest] }
    match w.stage with
    | .opening (.failed f) => ⟨w, header, .error f⟩
    | .opening _ => ⟨(w.advance time).proceed .late, header, .error (Hub.openingTimeout w.options)⟩
    | .opened _ => ⟨w.advance time, header, .ok ()⟩

end EventHub

end Appliance.Rehearsal
