import Appliance.Session

/-!
# Overlapping refreshes

Refreshes of one session may overlap in any order of their steps, and the session may
be disposed of between any two of them. A refresh that stores its token holds the
session from the moment when it finds that the session was not disposed of, and so does
a disposal while it wipes the session; to mark it, a disposal need not wait.

* `Flight`        : how far one of the refreshes has come
* `Overlap`       : a session with its refreshes
* `Overlap.step`  : one step of a refresh or of a disposal
* `Overlap.run`   : many steps
-/

namespace Appliance

/-- How far one of several refreshes has come. -/
inductive Flight where
  /-- It is about to take its next step, or it is over. -/
  | going (r : Refresh)
  /-- It has called the provider, and waits for the answer. -/
  | awaiting (r : Refresh)
  /-- It has found the session in use, and holds it to store the token. -/
  | storing (token : Token)

/-- A session with its refreshes. -/
structure Overlap where
  session : Session
  /-- The refreshes begun so far. They go by their place. -/
  flights : List Flight
  /-- The refresh that holds the session. -/
  holder : Option Nat
  /-- Whether a disposal has marked the session and has still to wipe it. -/
  wiping : Bool

namespace Overlap

/-- A call of the provider. -/
inductive Ask where
  | resolve (c : Credential)
  | authenticate (c : Credential) (scope : Scope)

/-- The call of the provider that a refresh makes next, if it makes one. -/
def ask? : Refresh → Option Ask
  | .resolving c => some (.resolve c)
  | .issuing c scope => some (.authenticate c scope)
  | .admitted | .finished _ => none

/-- One step of a refresh, or of a disposal. -/
inductive Event where
  /-- A refresh begins, and finds out whether the session was disposed of. -/
  | begin
  /-- A refresh looks at the credential and the scope. -/
  | look (k : Nat)
  /-- A refresh calls the provider. -/
  | ask (k : Nat)
  /-- The provider has tried to resolve the scope. -/
  | resolved (k : Nat) (answer : Except TokenService.Failure Scope)
  /-- The provider has tried to issue a token. -/
  | issued (k : Nat) (answer : Except TokenService.Failure Token)
  /-- A refresh stores its token and lets go of the session. -/
  | store (k : Nat)
  | mark
  | wipe

/-- A session of which no refresh has begun. -/
def ofSession (s : Session) : Overlap where
  session := s
  flights := []
  holder := none
  wiping := false

/-- Moves a refresh. -/
def put (w : Overlap) (k : Nat) (f : Flight) : Overlap := { w with flights := w.flights.set k f }

/-- One step, with the calls of the provider that it makes. A refresh that is not where
the step begins does not take it, and neither does one that would have to wait for the
session. -/
def step (w : Overlap) : Event → Overlap × List (Nat × Ask)
  | .begin => ({ w with flights := w.flights ++ [.going w.session.enter] }, [])
  | .look k =>
    match w.flights[k]? with
    | some (.going .admitted) =>
      if w.holder.isSome then (w, []) else (w.put k (.going w.session.snapshot), [])
    | _ => (w, [])
  | .ask k =>
    match w.flights[k]? with
    | some (.going r) =>
      match ask? r with
      | some a => (w.put k (.awaiting r), [(k, a)])
      | none => (w, [])
    | _ => (w, [])
  | .resolved k answer =>
    match w.flights[k]? with
    | some (.awaiting (.resolving c)) =>
      -- a refresh that has failed does not touch the session
      if answer.isOk && w.holder.isSome then (w, [])
      else
        let (session, r) := w.session.takeScope c answer
        ({ w with session }.put k (.going r), [])
    | _ => (w, [])
  | .issued k answer =>
    match w.flights[k]?, answer with
    | some (.awaiting (.issuing _ _)), .error f => (w.put k (.going (.finished (.error f))), [])
    | some (.awaiting (.issuing _ _)), .ok token =>
      if w.holder.isSome then (w, [])
      else if w.session.disposed then (w.put k (.going Session.refusedRefresh), [])
      else ({ w with holder := some k }.put k (.storing token), [])
    | _, _ => (w, [])
  | .store k =>
    match w.flights[k]? with
    | some (.storing token) =>
      let session := { w.session with token := some token }
      ({ w with session, holder := none }.put k (.going (.finished (.ok ()))), [])
    | _ => (w, [])
  | .mark =>
    if w.session.disposed then (w, []) else ({ w with session := w.session.mark, wiping := true }, [])
  | .wipe =>
    if w.wiping && w.holder.isNone then ({ w with session := w.session.wipe, wiping := false }, [])
    else (w, [])

/-- Many steps, with the calls of the provider that they make. -/
def run (w : Overlap) : List Event → Overlap × List (Nat × Ask)
  | [] => (w, [])
  | e :: rest =>
    let (w, asks) := w.step e
    let (w, more) := w.run rest
    (w, asks ++ more)

end Overlap

end Appliance
