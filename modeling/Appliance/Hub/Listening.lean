import Appliance.Hub.Opening
import Appliance.Listener.Callback

/-!
# Listeners of the event hub

A listener whose channels are those of the event hub, with the callback and the handlers
of its users. The session, the hub, the clock and the users act in any order; what they
may do at each moment is all that the listener, the opening and the channels take.

* `Hub.Line`            : a channel of the listener, with all that it has taken
* `HubListener`         : a listener with its channels
* `HubListener.step`    : one thing that happens
* `HubListener.run`     : many things that happen
-/

namespace Appliance

namespace Hub

/-- A channel of a listener. It is there before it begins to listen. -/
structure Line where
  /-- The records that came together with the hub's answer. -/
  pending : List String
  /-- When it has begun. -/
  began : Option Instant
  /-- What it has taken since then, in order. -/
  taken : List (Instant × Channel.Input)
  /-- Whether the listener has asked it to close. -/
  asked : Bool

namespace Line

/-- A channel that has not begun. -/
def fresh (pending : List String) : Line := ⟨pending, none, [], false⟩

/-- A channel that begins now and takes inputs. -/
def after (options : Listener.Options) (pending : List String) (now : Instant)
    (taken : List (Instant × Channel.Input)) : Channel :=
  taken.foldl (fun c x => (c.step options x.1 x.2).1) (Channel.begin options now pending).1

/-- How far the channel has come. -/
def channel? (options : Listener.Options) (l : Line) : Option Channel :=
  l.began.map fun now => after options l.pending now l.taken

/-- The reason that the listener gets once the channel is over. -/
def reason? (options : Listener.Options) (l : Line) : Option DisconnectReason :=
  match l.channel? options with
  | some (.over reason) => some reason
  | some .broken => some .dropped
  | _ => none

end Line

end Hub

/-- A listener with its channels. -/
structure HubListener where
  options : Listener.Options
  observed : Observed
  /-- The opening under way. -/
  opening : Option Hub.Opening
  /-- The channels opened so far. They go by their place. -/
  lines : List Hub.Line
  subscriptions : Subscriptions Handler
  traces : List Trace

namespace HubListener

open Hub (Channel Line Opening)

/-- A thing that happens. -/
inductive Event where
  | call (ticket : Nat) (c : Listener.Call)
  /-- The session has tried to get a new token. -/
  | refreshed (result : Except TokenService.Failure Unit)
  | elapsed
  | proceed
  | noticed
  | opening (input : Opening.Input)
  /-- The opening is over, and the listener gets its result. -/
  | opened
  /-- A channel begins. -/
  | began (n : Nat) (now : Instant)
  /-- A channel takes an input. -/
  | took (n : Nat) (now : Instant) (input : Channel.Input)
  /-- The listener gets the reason of a channel that is over. -/
  | ended (n : Nat)
  /-- The listener has waited for the end of a channel. -/
  | closed (n : Nat)
  /-- A user performs an operation on the handlers. -/
  | subscribe (op : Operation)

/-- A listener that was not started. -/
def fresh (options : Listener.Options) (ownsSession : Bool) (callback : Callback)
    (subscriptions : Subscriptions Handler) : HubListener where
  options; subscriptions
  observed := Observed.fresh callback options.backoff ownsSession
  opening := none
  lines := []
  traces := []

/-- The listener. -/
def listener (w : HubListener) : Listener := w.observed.listener

/-- The reason that the listener gets of a channel, once that is over. -/
def reason? (w : HubListener) (n : Nat) : Option DisconnectReason :=
  w.lines[n]?.bind (Line.reason? w.options)

/-! ## Handlers and channels -/

/-- Performs an operation on the handlers. -/
def subscribe (w : HubListener) (op : Operation) : HubListener :=
  let p := w.subscriptions.perform op
  { w with subscriptions := p.subscriptions, traces := w.traces ++ p.traces }

/-- Performs an effect of a channel, as far as it concerns the handlers. -/
def deliver (w : HubListener) : Channel.Effect → HubListener
  | .deliver e => w.subscribe (.dispatch e)
  | _ => w

/-- Moves a channel, and performs its effects. -/
def move (w : HubListener) (n : Nat) (l : Line) (effects : List Channel.Effect) : HubListener :=
  effects.foldl deliver { w with lines := w.lines.set n l }

/-- Whether a channel may take an input. Its user closes it only when asked. -/
def admits (l : Line) : Channel.Input → Bool
  | .shutdown => l.asked
  | _ => true

/-- What the hub, the clock and the handlers' users do by it. -/
def transport (w : HubListener) : Event → HubListener
  | .opening input => { w with opening := w.opening.map fun o => o.step w.options input }
  | .opened =>
    match w.opening with
    | some (.opened pending) => { w with opening := none, lines := w.lines ++ [.fresh pending] }
    | some (.failed _) => { w with opening := none }
    | _ => w
  | .began n now =>
    match w.lines[n]? with
    | some l =>
      if l.began.isSome then w
      else w.move n { l with began := some now } (Channel.begin w.options now l.pending).2
    | none => w
  | .took n now input =>
    match w.lines[n]? with
    | some l =>
      match l.channel? w.options with
      | some c =>
        if admits l input then
          w.move n { l with taken := l.taken ++ [(now, input)] } (c.step w.options now input).2
        else w
      | none => w
    | none => w
  | .subscribe op => w.subscribe op
  | _ => w

/-! ## The listener -/

/-- What the listener hears of it. -/
def input? (w : HubListener) : Event → Option Listener.Input
  | .call ticket c => some (.call ticket c)
  | .refreshed result => some (.refreshed result)
  | .elapsed => some .elapsed
  | .proceed => some .proceed
  | .noticed => some .noticed
  | .opened =>
    match w.opening with
    | some (.opened _) => some (.opened (.ok w.lines.length))
    | some (.failed f) => some (.opened (.error f))
    | _ => none
  | .ended n => (w.reason? n).map (.disconnected n)
  | .closed n => (w.reason? n).map fun _ => .closed n
  | _ => none

/-- Performs an effect of the listener, as far as it concerns its channels. -/
def act (w : HubListener) : Listener.Effect → HubListener
  | .openChannel token => { w with opening := some (.begin token.text) }
  | .close n => { w with lines := w.lines.modify n fun l => { l with asked := true } }
  | .abandon => { w with opening := none }
  | _ => w

/-- Tells the listener something. -/
def tell (w : HubListener) (g : Listener.Glance) (input : Listener.Input) : HubListener :=
  (w.listener.step g input).2.foldl act { w with observed := w.observed.step g input }

/-- One thing that happens. The glance shows the session at this moment. -/
def step (w : HubListener) (g : Listener.Glance) (e : Event) : HubListener :=
  match w.input? e with
  | some input => (w.transport e).tell g input
  | none => w.transport e

/-- Many things that happen. -/
def run (w : HubListener) : List (Listener.Glance × Event) → HubListener
  | [] => w
  | (g, e) :: rest => (w.step g e).run rest

end HubListener

end Appliance
