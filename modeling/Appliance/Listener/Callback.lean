import Appliance.Listener

/-!
# State callbacks

A callback is told every state that a listener shows. It may panic whenever it is
told something; the panic is caught, and nothing else comes of it.

* `Callback`       : when a callback panics
* `Observed`       : a listener, and what its callback was told
* `Observed.run`   : a run of the two
-/

namespace Appliance

/-- A state callback: whether it panics at a state, given those it was told before. -/
abbrev Callback := List ListenerState → ListenerState → Bool

/-- A listener, and what its callback was told. -/
structure Observed where
  listener : Listener
  callback : Callback
  /-- The states that the callback was told, in order. -/
  told : List ListenerState
  /-- How many of its panics were caught. -/
  caught : Nat

namespace Observed

/-- A listener that was not started, with a callback that was told nothing. -/
def fresh (callback : Callback) (backoff : Backoff) (ownsSession : Bool) : Observed where
  listener := Listener.fresh backoff ownsSession
  callback := callback
  told := []
  caught := 0

/-- Tells the callback a state. A panic ends its call and is counted. -/
def tell (o : Observed) (s : ListenerState) : Observed :=
  { o with
    told := o.told ++ [s]
    caught := if o.callback o.told s then o.caught + 1 else o.caught }

/-- Performs an effect, as far as it concerns the callback. -/
def act (o : Observed) : Listener.Effect → Observed
  | .show s => o.tell s
  | _ => o

/-- One input of the listener. -/
def step (o : Observed) (g : Listener.Glance) (input : Listener.Input) : Observed :=
  let (listener, effects) := o.listener.step g input
  effects.foldl act { o with listener }

/-- Gives the listener one input after another. -/
def run (o : Observed) : List (Listener.Glance × Listener.Input) → Observed
  | [] => o
  | (g, input) :: rest => (o.step g input).run rest

end Observed

end Appliance
