import Appliance.Session.Sharing

/-!
# Families of sessions

A copy of a session is a session of its own. Sessions that come from one another by copying are
a family, and go by their place in it. Calls of all of them may overlap in any order of their
steps, and time passes between these.

* `SharedSession.born?` : the session that a step of a call makes
* `SessionFamily`       : sessions, and the time
* `SessionFamily.step`  : a step of a call, or some time
* `SessionFamily.run`   : many of these
-/

namespace Appliance

/-- The session that a step makes, if it ends a call to copy that was admitted. -/
def SharedSession.born? (w : SharedSession) : Event → Option Session
  | .duplicate k =>
    match w.copyings[k]?, (w.step (.duplicate k)).1.copyings[k]? with
    | some .admitted, some (.over (.ok s)) => some s
    | _, _ => none
  | _ => none

/-- Sessions that come from one another by copying, each with the calls made of it. -/
structure SessionFamily where
  now : Instant
  members : List SharedSession

namespace SessionFamily

/-- A thing that happens. -/
inductive Event where
  /-- Some nanoseconds pass. -/
  | passes (nanos : Nat)
  /-- A call of a member takes a step. -/
  | call (k : Nat) (e : SharedSession.Event)

/-- A session of which no copy was made. -/
def ofSession (now : Instant) (s : Session) : SessionFamily := ⟨now, [SharedSession.ofSession s]⟩

/-- One thing that happens. -/
def step (f : SessionFamily) : Event → SessionFamily
  | .passes nanos => { f with now := f.now + nanos }
  | .call k e =>
    match f.members[k]? with
    | some w => { f with
        members := f.members.set k (w.step e).1 ++ (w.born? e).toList.map .ofSession }
    | none => f

/-- Many things that happen. -/
def run (f : SessionFamily) (events : List Event) : SessionFamily := events.foldl step f

end SessionFamily

end Appliance
