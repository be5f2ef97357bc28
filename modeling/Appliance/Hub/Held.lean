import Appliance.Hub.Tasks

/-!
# Channels in the hands of a user

Whoever has opened a channel may close it, as often as they like, and may give it up. The
first of these asks the task of the channel to end it, and the first close waits for the task
besides; a later close finds nothing to ask and nothing to wait for. The hub, the clock and
the handlers go on meanwhile.

* `Channel.fate?`      : the reason that a channel ends with, once that is settled
* `HeldChannel`        : a channel with its task, and what its user may still do
* `HeldChannel.Mark`   : what is seen of it
* `HeldChannel.step`   : one thing that happens
* `HeldChannel.run`    : many things that happen
* `ClosesProperly`     : what the user of a channel may rely on
-/

namespace Appliance.Hub

/-- The reason that a channel ends with, once that is settled. -/
def Channel.fate? : Channel → Option DisconnectReason
  | .listening _ _ => none
  | .leaving reason | .over reason => some reason
  | .broken => some .dropped

/-- The reason that a channel ends with. None is settled before it begins. -/
def Line.fate? (options : Listener.Options) (l : Line) : Option DisconnectReason :=
  (l.channel? options).bind Channel.fate?

/-- A channel with its task, in the hands of its user. -/
structure HeldChannel where
  options : Listener.Options
  line : Line
  task : ChannelTask
  subscriptions : Subscriptions Handler
  traces : List Trace
  /-- Whether the user can still ask the task to end the channel. -/
  asks : Bool
  /-- Whether the user can still wait for the task. -/
  waits : Bool
  /-- Whether a close is under way, which waits for the task. -/
  closing : Bool
  /-- Whether the user has given the channel up. -/
  dropped : Bool

namespace HeldChannel

/-- A thing that happens. -/
inductive Event where
  /-- The task begins. -/
  | began (now : Instant)
  /-- The task takes an input of its channel. -/
  | took (now : Instant) (input : Channel.Input)
  /-- The task performs the next effect. -/
  | carried
  /-- The handler that the task has called returns. -/
  | returned
  /-- The user calls close. -/
  | close
  /-- The close under way returns. -/
  | closed
  /-- The user gives the channel up. -/
  | drop
  /-- Somebody performs an operation on the handlers. -/
  | subscribe (op : Operation)

/-- What is seen of it. -/
inductive Mark where
  /-- Close is called. -/
  | closing
  /-- Close returns. -/
  | closed
  /-- The channel is given up. -/
  | dropped
  /-- The reason is settled that the channel ends with. -/
  | ended (reason : DisconnectReason)
  /-- The user gets the reason. -/
  | notified (reason : DisconnectReason)
  /-- The task calls a handler. -/
  | called (e : Appliance.Event)
  /-- The handler that it has called returns. -/
  | returned
deriving DecidableEq

/-- A channel that was opened just now, with the records that came together with the hub's
answer. -/
def fresh (options : Listener.Options) (pending : List String)
    (subscriptions : Subscriptions Handler) : HeldChannel where
  options; subscriptions
  line := .fresh pending
  task := .fresh
  traces := []
  asks := true
  waits := true
  closing := false
  dropped := false

/-- Performs an operation on the handlers. -/
def subscribe (w : HeldChannel) (op : Operation) : HeldChannel :=
  let p := w.subscriptions.perform op
  { w with subscriptions := p.subscriptions, traces := w.traces ++ p.traces }

/-- How the channel goes on, and what its task then has to perform. -/
def turning? (w : HeldChannel) : Event → Option (Line × List Channel.Effect)
  | .began now =>
    if w.line.began.isSome then none
    else some ({ w.line with began := some now }, (Channel.begin w.options now w.line.pending).2)
  | .took now input =>
    match w.line.channel? w.options with
    | some c =>
      if HubListener.admits w.line input then
        some ({ w.line with taken := w.line.taken ++ [(now, input)] },
          (c.step w.options now input).2)
      else none
    | none => none
  | _ => none

/-- The channel goes on, if its task has nothing to perform. -/
def turn (w : HeldChannel) (e : Event) : HeldChannel × List Mark :=
  match w.turning? e with
  | some (line, effects) =>
    if w.task.isIdle then
      let w' := { w with line, task := { w.task with due := effects } }
      (w', if (w.line.fate? w.options).isSome then []
        else (line.fate? w.options).toList.map .ended)
    else (w, [])
  | none => (w, [])

/-- The event that an effect of the channel calls a handler with. -/
def called? (w : HeldChannel) : Channel.Effect → Option Appliance.Event
  | .deliver e => if (w.subscriptions.select e.name).isSome then some e else none
  | _ => none

/-- Performs an effect of the channel, as far as it concerns the handlers. -/
def deliver (w : HeldChannel) : Channel.Effect → HeldChannel
  | .deliver e => w.subscribe (.dispatch e)
  | _ => w

/-- The task performs the next effect, unless a handler runs. -/
def carry (w : HeldChannel) : HeldChannel × List Mark :=
  match w.task.calling, w.task.due with
  | none, effect :: rest =>
    let calling := w.called? effect
    ({ w.deliver effect with task := ⟨rest, calling, effect.given?.or w.task.given⟩ },
      calling.toList.map .called ++ effect.given?.toList.map .notified)
  | _, _ => (w, [])

/-- The handler that the task has called returns. -/
def finish (w : HeldChannel) : HeldChannel × List Mark :=
  if w.task.calling.isSome then
    ({ w with task := { w.task with calling := none } }, [.returned])
  else (w, [])

/-- Asks the task to end the channel, unless that was done. -/
def ask (w : HeldChannel) : HeldChannel :=
  { w with
    line := { w.line with asked := w.line.asked || w.asks }
    asks := false }

/-- The user calls close. The call returns at once if there is no task to wait for. -/
def close (w : HeldChannel) : HeldChannel × List Mark :=
  if w.waits then ({ w.ask with waits := false, closing := true }, [.closing])
  else (w.ask, [.closing, .closed])

/-- One thing that happens, with what is seen of it. Every close is waited for, and then the
channel may be closed again or given up. -/
def step (w : HeldChannel) : Event → HeldChannel × List Mark
  | .began now => w.turn (.began now)
  | .took now input => w.turn (.took now input)
  | .carried => w.carry
  | .returned => w.finish
  | .close => if w.closing || w.dropped then (w, []) else w.close
  | .closed =>
    if w.closing && w.task.isDone then ({ w with closing := false }, [.closed]) else (w, [])
  | .drop =>
    if w.closing || w.dropped then (w, [])
    else ({ w.ask with waits := false, dropped := true }, [.dropped])
  | .subscribe op => (w.subscribe op, [])

/-- Many things that happen, with what is seen of them. -/
def run (w : HeldChannel) : List Event → HeldChannel × List Mark
  | [] => (w, [])
  | e :: rest =>
    let m := w.step e
    let m' := m.1.run rest
    (m'.1, m.2 ++ m'.2)

/-- Whether a thing is done by the task and its handlers alone, once the channel shall end. -/
def Event.isOwn : Event → Bool
  | .began _ | .carried | .returned | .took _ .shutdown | .took _ .socketClosed => true
  | _ => false

/-- Whether a mark is the work of the task. -/
def Mark.isWork : Mark → Bool
  | .ended _ | .notified _ | .called _ | .returned => true
  | .closing | .closed | .dropped => false

/-- The reasons that the user gets. -/
def reasons (marks : List Mark) : List DisconnectReason :=
  marks.filterMap fun
    | .notified reason => some reason
    | _ => none

/-- What the user of a channel may rely on. -/
structure ClosesProperly (marks : List Mark) : Prop where
  /-- There is one reason at most, and it is the one that was settled. -/
  once : ∀ before reason after, marks = before ++ .notified reason :: after →
    .ended reason ∈ before ∧ ∀ r, .notified r ∉ before ∧ .notified r ∉ after
  /-- Where close returns, the reason was given, and the task does nothing more. -/
  returns : ∀ before after, marks = before ++ .closed :: after →
    (∃ reason, .notified reason ∈ before) ∧ ∀ m ∈ after, m.isWork = false
  /-- A reason that is settled stays. -/
  stays : ∀ before reason after, marks = before ++ .ended reason :: after →
    (∀ r, .ended r ∉ before ∧ .ended r ∉ after) ∧ ∀ r, .notified r ∈ marks → r = reason
  /-- The reason is graceful only if a close or the giving up came before it was settled. -/
  graceful : ∀ before after, marks = before ++ .ended .graceful :: after →
    .closing ∈ before ∨ .dropped ∈ before

end HeldChannel

end Appliance.Hub
