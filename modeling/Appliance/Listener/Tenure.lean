import Appliance.Listener.Log

/-!
# A listener and its session

A listener is given a session that ends with it, shares one with its user, or gets a copy
of its user's session for itself. The sessions live on beside the listener: refreshes of
the listener and of others change them, and others may dispose of them.

* `Ownership`   : how a listener comes by its session
* `Tenure`      : a listener with the sessions around it
* `Tenure.step` : one thing that happens to them
* `Tenure.run`  : many things that happen
-/

namespace Appliance

namespace Listener

/-- How a listener comes by its session. -/
inductive Ownership where
  /-- The session is the listener's own. -/
  | owned
  /-- The session stays its user's. -/
  | shared
  /-- The listener gets a copy of its user's session. -/
  | cloned
deriving DecidableEq, Repr

/-- Whether the session ends with the listener. -/
def Ownership.ownsSession : Ownership → Bool
  | .shared => false
  | .owned | .cloned => true

end Listener

/-- A part of a refresh that changes the session. -/
inductive RefreshPart where
  | scope (c : Credential) (answer : Except TokenService.Failure Scope)
  | token (answer : Except TokenService.Failure Token)

/-- The session after it. -/
def RefreshPart.apply : RefreshPart → Session → Session
  | .scope c answer, s => (s.takeScope c answer).1
  | .token answer, s => (s.takeToken answer).1

/-- A listener with the sessions around it, which go by their place. -/
structure Tenure where
  listener : Listener
  sessions : List Session
  /-- The place of the listener's session. -/
  held : Nat

namespace Tenure

open Listener (Effect Glance Input LogLine Ownership)

/-- A listener that was not started, and the session it was made with. -/
def begin (ownership : Ownership) (backoff : Backoff) (s : Session) : Except Fault Tenure :=
  let listener := Listener.fresh backoff ownership.ownsSession
  match ownership with
  | .owned | .shared => .ok ⟨listener, [s], 0⟩
  | .cloned => s.copy.map fun c => ⟨listener, [s, c], 1⟩

/-- A thing that happens. -/
inductive Event where
  /-- The listener is told something. -/
  | told (now : Instant) (input : Input)
  /-- The refresh that the listener has asked for changes its session. -/
  | refreshing (part : RefreshPart)
  /-- Someone else's refresh changes a session. -/
  | refreshingElsewhere (k : Nat) (part : RefreshPart)
  /-- Someone else disposes of a session. -/
  | disposingElsewhere (k : Nat)

/-- What the listener's session shows. -/
def glance (t : Tenure) (now : Instant) : Glance :=
  match t.sessions[t.held]? with
  | some s => ⟨s.secondsLeft now, s.accessToken⟩
  | none => ⟨0, none⟩

/-- Changes a session. -/
def change (t : Tenure) (k : Nat) (f : Session → Session) : Tenure :=
  { t with sessions := t.sessions.modify k f }

/-- Performs an effect of the listener, as far as it concerns its session. -/
def act (t : Tenure) : Effect → Tenure
  | .disposeSession => t.change t.held Session.dispose
  | _ => t

/-- One thing that happens, with the lines that it adds to the listener's log. -/
def step (t : Tenure) : Event → Tenure × List LogLine
  | .told now input =>
    let m := t.listener.step (t.glance now) input
    (m.2.foldl act { t with listener := m.1 }, t.listener.stepLog (t.glance now) input)
  | .refreshing part =>
    (if t.listener.stage? = some .refreshing then t.change t.held part.apply else t, [])
  | .refreshingElsewhere k part => (t.change k part.apply, [])
  | .disposingElsewhere k => (t.change k Session.dispose, [])

/-- Many things that happen, with the lines that they add to the listener's log. -/
def run (t : Tenure) : List Event → Tenure × List LogLine
  | [] => (t, [])
  | e :: rest =>
    let (t, lines) := t.step e
    let (t, more) := t.run rest
    (t, lines ++ more)

end Tenure

end Appliance
