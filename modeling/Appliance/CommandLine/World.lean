import Appliance.CommandLine.Arguments
import Appliance.CommandLine.Output
import Appliance.Disconnect
import Appliance.Subscriptions
import Appliance.TokenService.Provider

/-!
# The world of the program

What the program needs of the world around it: a clock, files, what is piped in
or typed, the token service, a channel, a timer, and the news of what happens
while it waits. Nothing here says how these are provided.

* `World`           : what the world provides
* `Happening`       : what happens while the program waits
* `World.converse`  : asks what a dialogue asks
-/

namespace Appliance.CommandLine

/-- What happens while the program waits. -/
inductive Happening where
  /-- The channel has ended. -/
  | ended (reason : DisconnectReason)
  /-- The time that was to pass has passed. -/
  | elapsed
  /-- The user interrupts the program. -/
  | interrupted

/-- What the world around the program provides, by actions of `m`. -/
structure World (m : Type → Type) where
  now : m Instant
  stamps : m Stamps
  print : List Line → m Unit
  /-- All that is piped in. -/
  piped : m Octets
  /-- What is typed when something is asked. -/
  typed : (label : String) → m (Except Report Secret)
  file : (path : String) → m (Except Files.ReadFault Octets)
  /-- The certificates of a folder that a credential may name. -/
  certificates : (folder : String) → Credential → m Certificate.Store
  /-- What can be done with certificate archives. -/
  platform : TokenService.Platform
  ask : TokenService.Options → TokenService.Request → m TokenService.Reply
  /-- Opens a channel. Until it ends, its events are printed as the command wants them. -/
  openChannel : ListenCommand → Address → Token → m (Except Fault Unit)
  /-- Closes the channel and waits for its end. -/
  closeChannel : m DisconnectReason
  setTimer : Duration → m Unit
  stopTimer : m Unit
  /-- Waits until something happens. -/
  next : m Happening
  /-- Repeats a step until it yields nothing. -/
  iterate : {α : Type} → (α → m (Option α)) → α → m α

namespace World

variable {m : Type → Type} [Monad m]

/-- Asks what a dialogue asks. -/
def converse {α : Type} (w : World m) (options : TokenService.Options) :
    Dialogue TokenService.Request TokenService.Reply α → m α
  | .done a => pure a
  | .ask request next => w.ask options request >>= fun reply => w.converse options (next reply)

end World

/-! ## Events -/

/-- The handlers of the wanted events. All do the same. -/
def ListenCommand.subscriptions {α : Type} (c : ListenCommand) (handler : α) : Subscriptions α :=
  match c.events with
  | [] => Subscriptions.empty.registerAll handler
  | names => names.foldl (fun s name => s.register name handler) Subscriptions.empty

/-- The line that is printed for an event, if it is wanted. -/
def ListenCommand.line? (c : ListenCommand) (stamps : Stamps) (e : Event) : Option Line :=
  ((c.subscriptions ()).select e.name).map fun _ => Line.event stamps c.json e

end Appliance.CommandLine
