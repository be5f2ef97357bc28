import Appliance.CommandLine.Run
import Appliance.Network
import Std.Async.Signal
import Std.Time.Zoned
import Std.Time.Format

/-!
# The program

The command line with the terminal, the files, the clock and the network of the
system it runs on.
-/

namespace Appliance.Terminal

open CommandLine (Happening Line ListenCommand Report Stamps World)
open Network (Link)
open Std.Async

/-- A channel with its websocket, and the command whose events it prints. -/
structure OpenChannel where
  link : Link
  channel : Hub.Channel
  command : ListenCommand

/-- What the world of the program keeps. -/
structure Kept where
  channel : Option OpenChannel
  /-- The reason of a channel that has ended, until it is told. -/
  ended : Option DisconnectReason
  /-- When the timer elapses. -/
  timer : Option Instant

/-- What is kept while the program runs. -/
abbrev Keeper := IO.Ref Kept

/-! ## Printing -/

/-- Prints lines. -/
def print (lines : List Line) : IO Unit :=
  for line in lines do
    if line.diagnostic then IO.eprintln line.text else IO.println line.text

/-- How the present moment is written. -/
def stamps : IO Stamps := do
  let now ← Std.Time.DateTime.now
  let utc ← Std.Time.DateTime.nowAt "UTC"
  return {
    time := now.format "HH:mm:ss"
    instant := utc.format "uuuu-MM-dd'T'HH:mm:ss.SSSSSSSSS'Z'"
    after := fun seconds => (now.addSeconds (.ofNat seconds)).format "uuuu-MM-dd HH:mm:ss" }

/-! ## Files -/

/-- The number of an error, which some calls of the system give as a negative one. -/
def errorNumber (code : UInt32) : Nat :=
  if code < 0x80000000 then code.toNat else (0 - code).toNat

/-- Why the system does not give a file, by the number of the error. -/
def faultOf (code : UInt32) (details : String) : Files.ReadFault :=
  match errorNumber code with
  | 2 => .missing
  | 20 => .notFolder
  | 21 => .isFolder
  | 36 => .nameTooLong
  | number => .other (details ++ " (os error " ++ toString number ++ ")")

/-- Why the system does not give a file. -/
def readFault : IO.Error → Files.ReadFault
  | .noFileOrDirectory _ code details | .noSuchThing _ code details
  | .inappropriateType _ code details | .invalidArgument _ code details
  | .permissionDenied _ code details | .resourceExhausted _ code details
  | .interrupted _ code details | .resourceBusy code details | .hardwareFault code details
  | .otherError code details => faultOf code details
  | e => .other (toString e)

/-- The content of a file. -/
def file (path : String) : IO (Except Files.ReadFault Octets) := do
  match Files.pathFault? path with
  | some f => return .error f
  | none =>
    try return .ok (Network.octetsOf (← IO.FS.readBinFile path))
    catch e => return .error (readFault e)

/-! ## Channels -/

/-- Gives the channel an input, and does what it asks for. -/
partial def input (k : Keeper) (i : Hub.Channel.Input) : Async Unit := do
  if let some c := (← k.get).channel then
    let now ← IO.monoNanosNow
    let (channel, effects) := c.channel.step c.command.options now i
    k.modify fun s => { s with channel := some { c with channel } }
    for effect in effects do perform c effect
where
  /-- Performs an effect of the channel. -/
  perform (c : OpenChannel) : Hub.Channel.Effect → Async Unit
    | .deliver e => do
      print (c.command.line? (← stamps) e).toList
    | .send record => do
      try c.link.sendText record
      catch e => input k (.failed (toString e))
    | .closeSocket => do
      c.link.close
      input k .socketClosed
    | .notify reason => k.modify fun s => { s with channel := none, ended := some reason }
    | .breakOff => k.modify fun s => { s with channel := none, ended := some .dropped }

/-- Gives the channel what was received. -/
def receive (k : Keeper) (received : WebSocket.Received) : Async Unit :=
  for r in received do
    match r with
    | .ok message => input k (.received message)
    | .error flaw => input k (.failed flaw.message)

/-- Opens a channel. -/
def openChannel (k : Keeper) (c : ListenCommand) (a : Address) (token : Token) :
    Async (Except Fault Unit) := do
  match ← Link.open? c.options a token.text with
  | .error f => return .error f
  | .ok (link, pending, received) =>
    let now ← IO.monoNanosNow
    let (channel, effects) := Hub.Channel.begin c.options now pending
    let opened : OpenChannel := ⟨link, channel, c⟩
    k.modify fun s => { s with channel := some opened, ended := none }
    for effect in effects do input.perform k opened effect
    receive k received
    return .ok ()

/-- Closes the channel. -/
def closeChannel (k : Keeper) : Async DisconnectReason := do
  input k .shutdown
  return (← k.modifyGet fun s => (s.ended, { s with channel := none, ended := none })).getD
    .graceful

/-! ## Waiting -/

/-- What ends a wait. -/
inductive Arrival where
  | octets (bytes : Option ByteArray)
  | due
  | interrupted

/-- Waits for octets, for an instant, or for the user's interrupt. -/
def arrival (link : Option Link) (due : Option Instant) : Async Arrival := do
  let interrupt ← Signal.Waiter.mk .sigint false
  let now ← IO.monoNanosNow
  let sleep ← due.mapM fun due => Selector.sleep (Network.offset ((due - now) / Duration.nanosPerMilli + 1))
  let octets := link.toList.map fun l =>
    Selectable.case (l.client.recvSelector Network.bufferSize) fun b => return Arrival.octets b
  let time := sleep.toList.map fun s => Selectable.case s fun _ => return Arrival.due
  let stop := Selectable.case interrupt.selector fun _ => return Arrival.interrupted
  Selectable.one (stop :: octets ++ time).toArray

/-- Waits until something happens. -/
partial def next (k : Keeper) : Async Happening := do
  let s ← k.get
  let now ← IO.monoNanosNow
  let acts := s.channel.bind fun c => c.channel.due?
  if let some reason := s.ended then
    k.modify fun s => { s with ended := none }
    return .ended reason
  else if s.timer.any (· ≤ now) then
    k.modify fun s => { s with timer := none }
    return .elapsed
  else if acts.any (· ≤ now) then
    input k .tick
    next k
  else
    match ← arrival (s.channel.map (·.link)) (acts.merge min s.timer) with
    | .interrupted => return .interrupted
    | .due => next k
    | .octets bytes =>
      if let some c := s.channel then
        let (link, received) ← c.link.take bytes
        k.modify fun s => { s with channel := s.channel.map fun c => { c with link } }
        receive k received
      next k

/-- Repeats a step until it yields nothing. -/
partial def iterate {α : Type} (step : α → Async (Option α)) (a : α) : Async α := do
  match ← step a with
  | some b => iterate step b
  | none => return a

/-! ## The world -/

/-- Asks for a password. This terminal always shows what is typed, so nothing is read. -/
def typed (label : String) : IO (Except Report Secret) := do
  IO.eprint (label ++ ": ")
  return .error ⟨"Failed to enable raw terminal mode", ["this terminal cannot hide what is typed"]⟩

/-- The system as the world of the program. -/
def world (k : Keeper) : World Async where
  now := IO.monoNanosNow
  stamps := stamps
  print lines := print lines
  piped := return Network.octetsOf (← (← IO.getStdin).readBinToEnd)
  typed label := typed label
  file path := file path
  certificates folder c := Certificate.Store.gather (m := IO) file folder c
  platform := .bare
  ask := Network.exchange
  openChannel := openChannel k
  closeChannel := closeChannel k
  setTimer delay := do
    let now ← IO.monoNanosNow
    k.modify fun s => { s with timer := some (now + delay.nanos) }
  stopTimer := k.modify fun s => { s with timer := none }
  next := next k
  iterate := iterate

/-- The parameters that the environment supplies. -/
def environment : IO (List (String × String)) :=
  (CommandLine.connecting.filterMap (·.source)).filterMapM fun name => do
    return (← IO.getEnv name).map fun value => (name, value)

end Appliance.Terminal

/-- Runs the program. -/
def main (arguments : List String) : IO UInt32 := do
  let keeper ← IO.mkRef ⟨none, none, none⟩
  let code ← (Appliance.CommandLine.run (Appliance.Terminal.world keeper)
    (← Appliance.Terminal.environment) arguments).block
  return UInt32.ofNat code
