import Appliance.Listener.Log

/-!
# Where a listener stands

What the loop does at each of its places, and the listeners at which calls have their
turn. Between those turns and the replies that belong to them the listener serves a call;
at all other moments it is left to its loop.

* `Loop.holdsChannel`, `Loop.awaitsRetry`, `Loop.makesAttempt` : what the loop does
* `turns` : the calls that have their turn in a run, each with the listener that serves it
-/

namespace Appliance.Listener

/-- Whether the loop holds a channel, be it that it closes it. -/
def Loop.holdsChannel : Loop → Bool
  | .watching _ | .closing _ _ => true
  | _ => false

/-- Whether the loop waits before an attempt. -/
def Loop.awaitsRetry : Loop → Bool
  | .waiting _ => true
  | _ => false

/-- Whether the loop makes an attempt, or is about to. -/
def Loop.makesAttempt : Loop → Bool
  | .ready _ | .attempting _ _ => true
  | _ => false

/-- The calls that have their turn when calls are served in order. -/
def serveTurns (g : Glance) : List (Nat × Call) → Listener → List (Listener × Nat × Call)
  | [], _ => []
  | (ticket, c) :: rest, l =>
    let next := (l.serve g ticket c).1
    (l, ticket, c) :: if next.serving = .nothing then serveTurns g rest next else []

/-- The calls that have their turn with one input. -/
def stepTurns (l : Listener) (g : Glance) (input : Input) : List (Listener × Nat × Call) :=
  let joined := (l.hear g input).1.joinLoop.1
  if joined.serving = .nothing then serveTurns g joined.queue joined else []

/-- The calls that have their turn in a run, each with the listener that serves it. -/
def turns (l : Listener) : List (Glance × Input) → List (Listener × Nat × Call)
  | [] => []
  | (g, input) :: rest => l.stepTurns g input ++ (l.step g input).1.turns rest

end Appliance.Listener
