import Appliance.CommandLine.Run
import Appliance.Rehearsal.EventHub

/-!
# Rehearsing the program

A world for the program with an appliance that follows two scripts: one of
answers of its token service, one of connections to its event hub. Whatever the
program waits for comes in the order of the scripts. When nothing comes without
time passing, the user interrupts the program if certain texts were printed, and
time passes otherwise.

* `Link`              : what the hub does on one connection
* `CommandRun`        : the state of the world
* `CommandRun.world`  : what it provides
* `CommandRun.run`    : a whole run
-/

namespace Appliance.Rehearsal

open CommandLine (Happening Line ListenCommand Report Stamps World)
open Hub (Channel)

/-- How a scripted hub ends a connection. -/
inductive LinkEnd where
  | drops
  | closes (notice : Option WebSocket.CloseNotice)
  | waits

/-- What a scripted hub does on one connection. -/
inductive Link where
  /-- It answers the request for a websocket with a status. -/
  | refuses (status : Nat)
  /-- It sends an answer to the handshake, and then frames, and ends the connection. -/
  | talks (handshake : String) (frames : List String) (ending : LinkEnd)

namespace Link

/-- A frame of text. -/
def textAction (s : String) : HubAction :=
  .sends (WebSocket.Frame.write WebSocket.Frame.text (Octets.ofText s))

/-- What the hub does at the end of a connection. -/
def endActions : LinkEnd → List HubAction
  | .drops => [.drops]
  | .closes notice =>
    [.sends (WebSocket.Frame.write WebSocket.Frame.close (WebSocket.closePayload notice))]
  | .waits => []

/-- The hub of a connection, which listens on a port. -/
def script (port : Nat) : Link → EventHub.Script
  | .refuses status => { port, upgrade := .status status, greeting := [] }
  | .talks handshake frames ending =>
    { port, upgrade := .agrees
      greeting := (handshake :: frames).map textAction ++ endActions ending }

/-- The connections after the script. -/
def exhausted : Link := .refuses 404

end Link

/-- The state of the world. -/
structure CommandRun where
  stamps : Stamps
  now : Millis
  server : Server
  links : List Link
  /-- The texts after which the user interrupts the program; none if that never happens. -/
  interruptAfter : List String
  lines : List Line
  /-- All that is piped in. -/
  input : Octets
  typed : String → Except Report Secret
  files : Files.Place
  channel : Option EventHub
  /-- The command whose events the channel prints. -/
  listening : Option ListenCommand
  /-- When the timer elapses. -/
  timer : Option Millis

namespace CommandRun

/-- Prints lines. -/
def print (w : CommandRun) (lines : List Line) : CommandRun :=
  { w with lines := w.lines ++ lines }

/-- Whether a text was printed. -/
def hasPrinted (w : CommandRun) (s : String) : Bool :=
  w.lines.any fun l => Address.containsChars s.toList l.text.toList

/-- Whether the user interrupts the program. -/
def isInterrupted (w : CommandRun) : Bool :=
  !w.interruptAfter.isEmpty && w.interruptAfter.all w.hasPrinted

/-- The time that answers take at least, so that no token stays as it was issued. -/
def latency : Millis := 1

/-- Answers a request. -/
def answer (w : CommandRun) (request : TokenService.Request) :
    TokenService.Reply × CommandRun :=
  let (now, server, reply) :=
    Server.counterpart.complete w.now w.server (.ask request .done)
  (reply, { w with now := now + latency, server })

/-- The content of a file. -/
def file (path : String) : StateM CommandRun (Except Files.ReadFault Octets) :=
  return (← get).files.read path

/-! ## Channels -/

/-- Prints the events that a hub has delivered. -/
def printEvents (w : CommandRun) (traces : List Trace) : CommandRun :=
  w.print (traces.filterMap fun
    | .call _ e => w.listening.bind fun c => c.line? w.stamps e
    | .nested _ _ => none)

/-- A handler that only takes note. -/
def listener : Handler := .mk "listener" [] .returns

/-- Opens the next channel. The hub does all that its script says at once. -/
def openChannel (w : CommandRun) (c : ListenCommand) (a : Address) (token : Token) :
    Except Fault Unit × CommandRun :=
  let link := w.links.headD .exhausted
  let before := { EventHub.before c.options (Subscriptions.empty.registerAll listener) with
    now := w.now }
  let o := before.open a token.text (link.script w.server.port) 0
  let w := { w with links := w.links.tail, listening := some c }.printEvents o.world.traces
  (o.result, { w with channel := o.result.toOption.map fun _ => o.world })

/-- One step on a channel. -/
def stepChannel (w : CommandRun) (c : EventHub) (step : HubStep) : CommandRun :=
  let c := (c.perform step).1
  { w with now := max w.now c.now, channel := some c }.printEvents c.traces

/-- The reason that a channel has given, if it has ended. -/
def reason? (w : CommandRun) : Option DisconnectReason := w.channel.bind (·.told)

/-- Closes the channel. -/
def closeChannel (w : CommandRun) : DisconnectReason × CommandRun :=
  let w := match w.channel with
    | some c => w.stepChannel c .close
    | none => w
  (w.reason?.getD .graceful, { w with channel := none })

/-- The time until a channel does something by itself. -/
def untilChannelActs? (c : EventHub) : Option Millis :=
  match c.stage with
  | .opened (.listening pingDue silenceDue) =>
    some ((Duration.ofNanos (min pingDue silenceDue)).millisUp - c.now)
  | _ => none

/-! ## Waiting -/

/-- The end of the channel, which is told once. -/
def ending? (w : CommandRun) : Option (Happening × CommandRun) :=
  w.reason?.map fun reason => (.ended reason, { w with channel := none })

/-- The end of the timer. -/
def elapsing? (w : CommandRun) : Option (Happening × CommandRun) :=
  w.timer.map fun due => (.elapsed, { w with now := max w.now due, timer := none })

/-- What happens next. Where nothing ever would, the user interrupts the program. -/
def next : Nat → CommandRun → Happening × CommandRun
  | 0, w => (.interrupted, w)
  | fuel + 1, w =>
    match w.ending? with
    | some happening => happening
    | none =>
      if w.isInterrupted then (.interrupted, w)
      else match w.channel.bind fun c => (untilChannelActs? c).map fun time => (c, time) with
        | some (c, time) => next fuel (w.stepChannel c (.advance time))
        | none => w.elapsing?.getD (.interrupted, w)

/-- More steps than a rehearsal takes. -/
def patience : Nat := 100000

/-- Repeats a step until it yields nothing, or too often. -/
def iterate {α : Type} (step : α → StateM CommandRun (Option α)) :
    Nat → α → StateM CommandRun α
  | 0, a => pure a
  | fuel + 1, a => do
    match ← step a with
    | some b => iterate step fuel b
    | none => return a

/-! ## The world -/

/-- What the world provides. -/
def world : World (StateM CommandRun) where
  now := return instant (← get).now
  stamps := return (← get).stamps
  print lines := modify (·.print lines)
  piped := return (← get).input
  typed label := return (← get).typed label
  file := file
  certificates := Certificate.Store.gather file
  platform := .bare
  ask _ request := modifyGet (·.answer request)
  openChannel c a token := modifyGet (·.openChannel c a token)
  closeChannel := modifyGet closeChannel
  setTimer delay := modify fun w => { w with timer := some (w.now + delay.millisUp) }
  stopTimer := modify fun w => { w with timer := none }
  next := modifyGet (next patience)
  iterate step := iterate step patience

/-- A whole run: the exit code, and the world after it. -/
def run (w : CommandRun) (environment : List (String × String)) (arguments : List String) :
    Nat × CommandRun :=
  (CommandLine.run world environment arguments).run w

end CommandRun

end Appliance.Rehearsal
