import Appliance.Session.Family

/-!
# Lines of sessions

A copy of a session starts with what that one has found out. The history of a session is what was
done on its line: by the sessions that it comes from, each up to the copy that leads on, and then
by itself. It holds the calls of the provider, and the answers about the scope. No session looks
at its history.

* `SharedSession.learned?` : the answer about the scope that a step takes
* `SharedSession.deeds`    : what a step adds to the history
* `Descendant`             : a session with its history
* `Lineage`                : a family of them
* `Lineage.step`           : a step of a call, or some time
* `Lineage.run`            : many of these
-/

namespace Appliance

/-- What a refresh does with the provider. -/
inductive Overlap.Deed where
  /-- It calls the provider. -/
  | calls (a : Overlap.Ask)
  /-- It takes the provider's answer about the scope. -/
  | learns (answer : Except TokenService.Failure Scope)

namespace SharedSession

/-- The answer about the scope that a step takes, and the refresh that takes it. A scope is stored
in the step that takes it, so that no copy comes in between. -/
def learned? (w : SharedSession) : Event → Option (Nat × Except TokenService.Failure Scope)
  | .refresh (.resolved k answer) =>
    -- a refresh that has to wait for the session has not taken the answer yet
    match w.overlap.flights[k]?,
      (w.step (.refresh (.resolved k answer))).1.overlap.flights[k]? with
    | some (.awaiting (.resolving _)), some (.going _) => some (k, answer)
    | _, _ => none
  | _ => none

/-- What refreshes do with the provider in a step. -/
def deeds (w : SharedSession) (e : Event) : List (Nat × Overlap.Deed) :=
  (w.step e).2.map (fun (k, a) => (k, .calls a)) ++
    (w.learned? e).toList.map fun (k, answer) => (k, .learns answer)

end SharedSession

/-- A line of a history: which refresh of which session has done what. -/
structure Descendant.Entry where
  member : Nat
  refresh : Nat
  deed : Overlap.Deed

/-- A session with all the calls made of it, and with its history. -/
structure Descendant where
  calls : SharedSession
  history : List Descendant.Entry

/-- A call of the session takes a step, which is told in its history. -/
def Descendant.step (d : Descendant) (k : Nat) (e : SharedSession.Event) : Descendant where
  calls := (d.calls.step e).1
  history := d.history ++ (d.calls.deeds e).map fun (n, deed) => ⟨k, n, deed⟩

/-- Sessions that come from one another by copying, each with its history. -/
structure Lineage where
  now : Instant
  members : List Descendant

namespace Lineage

/-- The sessions without their histories. -/
def family (l : Lineage) : SessionFamily := ⟨l.now, l.members.map Descendant.calls⟩

/-- A session of which no call was made. -/
def ofSession (now : Instant) (s : Session) : Lineage := ⟨now, [⟨.ofSession s, []⟩]⟩

/-- One thing that happens. A copy takes over the history of its session. -/
def step (l : Lineage) : SessionFamily.Event → Lineage
  | .passes nanos => { l with now := l.now + nanos }
  | .call k e =>
    match l.members[k]? with
    | some d => { l with
        members := l.members.set k (d.step k e) ++
          (d.calls.born? e).toList.map (⟨.ofSession ·, d.history⟩) }
    | none => l

/-- Many things that happen. -/
def run (l : Lineage) (events : List SessionFamily.Event) : Lineage := events.foldl step l

end Lineage

end Appliance
