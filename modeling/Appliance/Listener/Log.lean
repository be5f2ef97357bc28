import Appliance.Listener.History

/-!
# Logs of a listener

A log holds in order what a listener has heard of the session, of the transport and of
its callers, which call had its turn when, and all that the listener has done. A call has
its turn when those before it have got their replies.

* `LogLine`     : one line
* `stepLog`     : what one input adds to a log
* `log`         : the log of a run
* `servedAfter` : the call that is being served after some lines
-/

namespace Appliance.Listener

/-- One line of a log. -/
inductive LogLine where
  /-- A call has come, or an answer that the listener waited for. -/
  | heard (input : Input)
  /-- The turn of a call has come. -/
  | turn (ticket : Nat) (c : Call)
  | did (effect : Effect)

/-- The effect of a line. -/
def LogLine.effect? : LogLine → Option Effect
  | .did effect => some effect
  | _ => none

/-- Whether a listener waits for a channel to close. -/
def isClosing (l : Listener) (channel : Nat) : Bool :=
  l.supervisor.any fun s =>
    match s.loop with
    | .closing n _ => n = channel
    | _ => false

/-- Whether an input is a call, or an answer that the listener waits for. -/
def isAwaited (l : Listener) : Input → Bool
  | .call _ _ => true
  | .closed channel => l.isClosing channel
  | input => l.isAnswer input

/-- What serving calls in order adds to a log. -/
def serveLog (g : Glance) : List (Nat × Call) → Listener → List LogLine
  | [], _ => []
  | (ticket, c) :: rest, l =>
    let m := l.serve g ticket c
    .turn ticket c :: m.2.map .did ++ if m.1.serving = .nothing then serveLog g rest m.1 else []

/-- What one input adds to a log. -/
def stepLog (l : Listener) (g : Glance) (input : Input) : List LogLine :=
  let heard := l.hear g input
  let joined := heard.1.joinLoop
  (if l.isAwaited input then [.heard input] else []) ++ heard.2.map .did ++ joined.2.map .did ++
    if joined.1.serving = .nothing then serveLog g joined.1.queue joined.1 else []

/-- The log of a run. -/
def log (l : Listener) : List (Glance × Input) → List LogLine
  | [] => []
  | (g, input) :: rest => l.stepLog g input ++ (l.step g input).1.log rest

/-- The call that is being served after a line, given the one that was served before it:
its turn has come, and it has got no reply. -/
def LogLine.served (served : Option (Nat × Call)) : LogLine → Option (Nat × Call)
  | .turn ticket c => some (ticket, c)
  | .did (.reply _ _) => none
  | _ => served

/-- The call that is being served after some lines. -/
def servedAfter (served : Option (Nat × Call)) (lines : List LogLine) : Option (Nat × Call) :=
  lines.foldl LogLine.served served

end Appliance.Listener
