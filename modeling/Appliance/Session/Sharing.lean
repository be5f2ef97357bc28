import Appliance.Session.Overlap

/-!
# Sessions in many hands

Besides refreshes, calls that read the token, copy the session or dispose of it may
overlap in any order of their steps. Each of them finds out first whether the session was
disposed of, and looks at what the session holds only after that. Whoever looks at the
session has to wait while a refresh stores its token.

* `Visit`                  : how far a call has come that looks at the session once
* `Disposal`               : how far a disposal has come
* `SharedSession`          : a session with all the calls made of it
* `SharedSession.step`     : one step of one of these calls
* `SharedSession.run`      : many steps
-/

namespace Appliance

/-- How far a call has come that looks at the session once. -/
inductive Visit (α : Type) where
  /-- It has found the session in use. -/
  | admitted
  | over (answer : α)

/-- How far a disposal has come. -/
inductive Disposal where
  /-- It has marked the session, and has still to wipe it. -/
  | wiping
  | over
deriving DecidableEq

namespace Session

/-- Begins a call that looks at the session. A session that was disposed of refuses it. -/
def admission {α : Type} (s : Session) (refusal : α) : Visit α :=
  if s.disposed then .over refusal else .admitted

/-- A session of its own with what the session holds now. -/
def duplicate (s : Session) : Except Fault Session :=
  match s.credential with
  | none => .error disposedFault
  | some c => .ok ⟨some c, s.scope, s.token, false⟩

end Session

/-- Gives a call its answer, if it has been admitted. -/
def Visit.finish {α : Type} (visits : List (Visit α)) (k : Nat) (answer : α) : List (Visit α) :=
  match visits[k]? with
  | some .admitted => visits.set k (.over answer)
  | _ => visits

/-- Whether a step is one of a refresh. -/
def Overlap.Event.isOfRefresh : Overlap.Event → Bool
  | .mark | .wipe => false
  | _ => true

/-- A session with all the calls made of it. They go by their place among those of their
kind. -/
structure SharedSession where
  /-- The session with its refreshes. -/
  overlap : Overlap
  /-- The calls that read the token. -/
  readings : List (Visit (Option Token))
  /-- The calls that copy the session. -/
  copyings : List (Visit (Except Fault Session))
  disposals : List Disposal

namespace SharedSession

/-- One step of a call. -/
inductive Event where
  | refresh (e : Overlap.Event)
  /-- A call to read the token begins, and finds out whether the session was disposed of. -/
  | read
  /-- It takes the token. -/
  | take (k : Nat)
  /-- A call to copy the session begins, and finds out whether that was disposed of. -/
  | copy
  /-- It takes what the session holds. -/
  | duplicate (k : Nat)
  /-- A disposal begins, and marks the session unless that is done. -/
  | dispose
  /-- It wipes the session. -/
  | wipe (k : Nat)

/-- A session of which no call was made. -/
def ofSession (s : Session) : SharedSession where
  overlap := Overlap.ofSession s
  readings := []
  copyings := []
  disposals := []

/-- The session. -/
def session (w : SharedSession) : Session := w.overlap.session

/-- One step, with the calls of the provider that it makes. A call that is not where the
step begins does not take it, and neither does one that would have to wait for the
session. -/
def step (w : SharedSession) : Event → SharedSession × List (Nat × Overlap.Ask)
  | .refresh e =>
    if e.isOfRefresh then
      let (overlap, asks) := w.overlap.step e
      ({ w with overlap }, asks)
    else (w, [])
  | .read => ({ w with readings := w.readings ++ [w.session.admission none] }, [])
  | .take k =>
    if w.overlap.holder.isSome then (w, [])
    else ({ w with readings := Visit.finish w.readings k w.session.token }, [])
  | .copy =>
    ({ w with copyings := w.copyings ++ [w.session.admission (.error Session.disposedFault)] }, [])
  | .duplicate k =>
    if w.overlap.holder.isSome then (w, [])
    else ({ w with copyings := Visit.finish w.copyings k w.session.duplicate }, [])
  | .dispose =>
    -- whoever marks the session has to wipe it as well
    ({ w with
      overlap := (w.overlap.step .mark).1
      disposals := w.disposals ++ [if w.session.disposed then .over else .wiping] }, [])
  | .wipe k =>
    if w.overlap.holder.isSome then (w, [])
    else if w.disposals[k]? = some .wiping then
      ({ w with overlap := (w.overlap.step .wipe).1, disposals := w.disposals.set k .over }, [])
    else (w, [])

/-- Many steps, with the calls of the provider that they make. -/
def run (w : SharedSession) : List Event → SharedSession × List (Nat × Overlap.Ask)
  | [] => (w, [])
  | e :: rest =>
    let (w, asks) := w.step e
    let (w, more) := w.run rest
    (w, asks ++ more)

end SharedSession

end Appliance
