import Appliance.Listener

/-!
# Runs of a listener

A run gives a listener one input after another, each with what the session shows at
that moment. Its history holds, in order, what the session and the transport have
answered and all that the listener has done.

* `Listener.run`       : where a run leads, and its effects
* `Listener.stage?`    : what the attempt under way waits for
* `Listener.history`   : what was answered and what was done
-/

namespace Appliance.Listener

/-- Takes inputs one after another. -/
def run (l : Listener) : List (Glance × Input) → Move
  | [] => still l
  | (g, input) :: rest => (l.step g input).andThen fun l => l.run rest

/-- What the attempt under way waits for, if one is. -/
def stage? (l : Listener) : Option Stage :=
  match l.serving with
  | .starting _ stage => some stage
  | _ =>
    match l.supervisor with
    | some s =>
      match s.loop with
      | .attempting _ stage => some stage
      | _ => none
    | none => none

/-- Whether an input is what an attempt waits for. -/
def Stage.isEndedBy : Stage → Input → Bool
  | .refreshing, .refreshed _ => true
  | .opening, .opened _ => true
  | _, _ => false

/-- Whether an input answers what the listener has asked of the session or the transport. -/
def isAnswer (l : Listener) (input : Input) : Bool := l.stage?.any fun s => s.isEndedBy input

/-- One line of a history. -/
inductive Entry where
  /-- The session or the transport has answered. -/
  | heard (answer : Input)
  | did (effect : Effect)

/-- What one input adds to a history. -/
def entries (l : Listener) (g : Glance) (input : Input) : List Entry :=
  (if l.isAnswer input then [.heard input] else []) ++ (l.step g input).2.map .did

/-- What was answered and what was done in a run. -/
def history (l : Listener) : List (Glance × Input) → List Entry
  | [] => []
  | (g, input) :: rest => l.entries g input ++ (l.step g input).1.history rest

end Appliance.Listener
