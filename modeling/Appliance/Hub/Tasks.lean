import Appliance.Hub.Listening
import Appliance.Listener.Log

/-!
# The tasks of channels

Every channel has a task of its own. The task takes one input of the channel, performs what
comes of it effect by effect, and only then takes the next one. A handler runs from its call
until it returns; its task waits for that, and nobody else does: meanwhile the listener, its
callers, the hub and the clock go on. So does a channel that has opened just now, before the
listener has it.

* `Hub.ChannelTask`        : what the task of a channel has still to do
* `HubTasks`        : a listener of the event hub, with the tasks of its channels
* `HubTasks.Mark`   : what is seen of them: the listener's log, and calls of handlers
* `HubTasks.step`   : one thing that happens
* `HubTasks.run`    : many things that happen
-/

namespace Appliance

/-- Whether an operation is one that the users of a listener have: they register handlers. -/
def Operation.registers : Operation → Bool
  | .register _ _ | .registerAll _ => true
  | _ => false

namespace Hub

/-- The reason that an effect of a channel gives its listener. -/
def Channel.Effect.given? : Channel.Effect → Option DisconnectReason
  | .notify reason => some reason
  | .breakOff => some .dropped
  | _ => none

/-- The task of a channel. -/
structure ChannelTask where
  /-- What it has still to perform, in order. -/
  due : List Channel.Effect
  /-- The event whose handler runs. -/
  calling : Option Event
  /-- The reason that it has given. -/
  given : Option DisconnectReason

namespace ChannelTask

/-- The task of a channel that has not begun. -/
def fresh : ChannelTask := ⟨[], none, none⟩

/-- Whether the task has nothing to perform. It waits for an input of its channel, or is
done. -/
def isIdle (t : ChannelTask) : Bool := t.due.isEmpty && t.calling.isNone

/-- Whether the task is done. -/
def isDone (t : ChannelTask) : Bool := t.isIdle && t.given.isSome

end ChannelTask

end Hub

namespace HubListener

open Hub (Channel Line Opening)

/-- How a channel goes on when it begins or takes an input: its number, where it then is, and
what its task has to perform. -/
def turning? (w : HubListener) : Event → Option (Nat × Line × List Channel.Effect)
  | .began n now =>
    match w.lines[n]? with
    | some l =>
      if l.began.isSome then none
      else some (n, { l with began := some now }, (Channel.begin w.options now l.pending).2)
    | none => none
  | .took n now input =>
    match w.lines[n]? with
    | some l =>
      match l.channel? w.options with
      | some c =>
        if admits l input then
          some (n, { l with taken := l.taken ++ [(now, input)] }, (c.step w.options now input).2)
        else none
      | none => none
    | none => none
  | _ => none

/-- Whether the opening under way has opened a channel. -/
def hasOpened (w : HubListener) : Bool :=
  match w.opening with
  | some (.opened _) => true
  | _ => false

/-- The event that an effect of a channel calls a handler with. -/
def called? (w : HubListener) : Channel.Effect → Option Appliance.Event
  | .deliver e => if (w.subscriptions.select e.name).isSome then some e else none
  | _ => none

end HubListener

/-- A listener of the event hub, with the tasks of its channels. -/
structure HubTasks where
  hub : HubListener
  /-- The tasks of the channels, in the order of these. -/
  tasks : List Hub.ChannelTask
  /-- The channel that has opened just now, until the listener has it. -/
  arriving : Option Nat

namespace HubTasks

open Hub (Channel Line Opening ChannelTask)
open Listener (Glance LogLine)

/-- A thing that happens. -/
inductive Event where
  /-- The opening under way has opened a channel, and its task is there. -/
  | spawned
  | happened (e : HubListener.Event)
  /-- The task of a channel performs the next effect. -/
  | carried (n : Nat)
  /-- The handler that the task of a channel has called returns. -/
  | returned (n : Nat)

/-- What is seen of it. -/
inductive Mark where
  /-- A line is added to the listener's log. -/
  | told (line : LogLine)
  /-- The task of a channel calls a handler. -/
  | called (n : Nat) (e : Appliance.Event)
  /-- The handler that it has called returns. -/
  | returned (n : Nat)

/-- A listener that was not started. -/
def fresh (options : Listener.Options) (ownsSession : Bool) (callback : Callback)
    (subscriptions : Subscriptions Handler) : HubTasks :=
  ⟨HubListener.fresh options ownsSession callback subscriptions, [], none⟩

/-- Whether a thing may happen. A task takes an input when it is idle, gives the reason
when it comes to that, and is waited for until it is done. While a channel arrives, the
listener takes nothing but calls and the channel. -/
def admits (w : HubTasks) : HubListener.Event → Bool
  | .call _ _ | .opening _ | .opened => true
  | .began n _ | .took n _ _ => w.tasks[n]?.any ChannelTask.isIdle
  | .ended n => w.arriving.isNone && w.tasks[n]?.any fun t => t.given.isSome
  | .closed n => w.arriving.isNone && w.tasks[n]?.any ChannelTask.isDone
  | .subscribe op => op.registers
  | .refreshed _ | .elapsed | .proceed | .noticed => w.arriving.isNone

/-- Tells the listener something. -/
def tell (w : HubTasks) (g : Glance) (input : Listener.Input) : HubTasks × List Mark :=
  ({ w with hub := w.hub.tell g input }, (w.hub.listener.stepLog g input).map .told)

/-- What happens to the listener and its channels. Whatever a channel has to do is left to
its task. -/
def happen (w : HubTasks) (g : Glance) (e : HubListener.Event) : HubTasks × List Mark :=
  match w.hub.turning? e with
  | some (n, l, effects) =>
    ({ w with
      hub := { w.hub with lines := w.hub.lines.set n l }
      tasks := w.tasks.modify n fun t => { t with due := effects } }, [])
  | none =>
    match w.hub.input? e with
    | some input => { w with hub := w.hub.transport e }.tell g input
    | none => ({ w with hub := w.hub.transport e }, [])

/-- The channel that the opening has opened gets a task. -/
def spawn (w : HubTasks) : HubTasks :=
  { w with
    hub := w.hub.transport .opened
    tasks := w.tasks ++ [.fresh]
    arriving := some w.hub.lines.length }

/-- The listener gets the channel that arrives, or the fault of an opening that has
failed. -/
def arrive (w : HubTasks) (g : Glance) : HubTasks × List Mark :=
  match w.arriving with
  | some n => { w with arriving := none }.tell g (.opened (.ok n))
  | none => if w.hub.hasOpened then (w, []) else w.happen g .opened

/-- The task of a channel performs the next effect, unless a handler runs. -/
def carry (w : HubTasks) (n : Nat) (t : ChannelTask) : HubTasks × List Mark :=
  match t.calling, t.due with
  | none, effect :: rest =>
    let calling := w.hub.called? effect
    ({ w with
      hub := w.hub.deliver effect
      tasks := w.tasks.set n ⟨rest, calling, effect.given?.or t.given⟩ },
      calling.toList.map (.called n))
  | _, _ => (w, [])

/-- The handler that the task of a channel has called returns. -/
def finish (w : HubTasks) (n : Nat) (t : ChannelTask) : HubTasks × List Mark :=
  if t.calling.isSome then
    ({ w with tasks := w.tasks.set n { t with calling := none } }, [.returned n])
  else (w, [])

/-- One thing that happens, with what is seen of it. The glance shows the session at this
moment. -/
def step (w : HubTasks) (g : Glance) : Event → HubTasks × List Mark
  | .spawned => if w.arriving.isNone && w.hub.hasOpened then (w.spawn, []) else (w, [])
  | .happened .opened => w.arrive g
  | .happened e => if w.admits e then w.happen g e else (w, [])
  | .carried n => (w.tasks[n]?.map (w.carry n)).getD (w, [])
  | .returned n => (w.tasks[n]?.map (w.finish n)).getD (w, [])

/-- Many things that happen, with what is seen of them. -/
def run (w : HubTasks) : List (Glance × Event) → HubTasks × List Mark
  | [] => (w, [])
  | (g, e) :: rest =>
    let m := w.step g e
    let m' := m.1.run rest
    (m'.1, m.2 ++ m'.2)

end HubTasks

end Appliance
