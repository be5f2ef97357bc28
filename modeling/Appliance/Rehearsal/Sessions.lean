import Appliance.Rehearsal.Counterpart
import Appliance.Session

/-!
# Rehearsing sessions

Several sessions with one provider, whose refreshes may overlap. Time moves only
while something waits. The operations are performed by one caller; refreshes in
the background go on only while the caller waits, the one whose answer is due
first before the others. What falls due together with an answer to the caller
comes after it.

* `Sessions`           : the sessions and the refreshes under way
* `Sessions.perform`   : one operation
* `Sessions.rehearse`  : a list of operations, with what is seen after each
-/

namespace Appliance.Rehearsal

open TokenService (Failure)

/-- What a refresh waits for. -/
inductive Awaited (Q P A : Type) where
  /-- Its turn to begin. -/
  | turn
  | scope (c : Credential) (answer : P) (next : A → Dialogue Q A (Except Failure Scope))
  | token (answer : P) (next : A → Dialogue Q A (Except Failure Token))

/-- A refresh under way. -/
structure Underway (Q P A : Type) where
  id : Nat
  session : Nat
  due : Millis
  awaited : Awaited Q P A

/-- Sessions with one provider. -/
structure Sessions (σ Q P A : Type) where
  other : Counterpart σ Q P A
  provider : TokenProvider Q A
  now : Millis
  state : σ
  sessions : List Session
  /-- The sessions that were dropped. -/
  dropped : List Nat
  /-- In the order in which their waits began. -/
  underway : List (Underway Q P A)
  finished : List (Nat × Except Failure Unit)
  /-- The refreshes begun in the background and not joined yet. -/
  unjoined : List Nat
  nextId : Nat

/-- An operation on sessions. -/
inductive SessionOp where
  | refresh (s : Nat)
  | beginRefresh (s : Nat)
  | join
  | copy (s : Nat)
  | dispose (s : Nat)
  | drop (s : Nat)
  | advance (time : Millis)
  | debug (s : Nat)
  | appliance

/-- The answer of an operation. -/
inductive SessionAnswer where
  | none
  | text (s : String)
  | result (r : Except Failure Unit)

namespace Sessions

variable {σ Q P A : Type}

/-- The session of a number. -/
def session (w : Sessions σ Q P A) (i : Nat) : Session :=
  w.sessions[i]?.getD ⟨none, none, none, true⟩

/-- Replaces a session. -/
def put (w : Sessions σ Q P A) (i : Nat) (s : Session) : Sessions σ Q P A :=
  { w with sessions := w.sessions.set i s }

/-- Lets a refresh wait. -/
def park (w : Sessions σ Q P A) (id i : Nat) (due : Millis) (awaited : Awaited Q P A) :
    Sessions σ Q P A :=
  { w with underway := w.underway ++ [⟨id, i, due, awaited⟩] }

/-- Ends a refresh. -/
def finish (w : Sessions σ Q P A) (id : Nat) (r : Except Failure Unit) : Sessions σ Q P A :=
  { w with finished := w.finished ++ [(id, r)] }

/-- Goes on with a refresh whose token is issued. -/
def runToken (w : Sessions σ Q P A) (id i : Nat) (d : Dialogue Q A (Except Failure Token)) :
    Sessions σ Q P A :=
  let (state, progress) := w.other.drive w.now w.state d
  let w := { w with state }
  match progress with
  | .waiting due p next => w.park id i due (.token p next)
  | .finished answer =>
    match (w.session i).takeToken answer with
    | (s, .finished r) => (w.put i s).finish id r
    | (s, _) => w.put i s

/-- Goes on with a refresh whose scope is resolved. -/
def runScope (w : Sessions σ Q P A) (id i : Nat) (c : Credential)
    (d : Dialogue Q A (Except Failure Scope)) : Sessions σ Q P A :=
  let (state, progress) := w.other.drive w.now w.state d
  let w := { w with state }
  match progress with
  | .waiting due p next => w.park id i due (.scope c p next)
  | .finished answer =>
    match (w.session i).takeScope c answer with
    | (s, .issuing c scope) => (w.put i s).runToken id i (w.provider.authenticate c (some scope))
    | (s, .finished r) => (w.put i s).finish id r
    | (s, _) => w.put i s

/-- Begins a refresh. -/
def run (w : Sessions σ Q P A) (id i : Nat) : Sessions σ Q P A :=
  let s := w.session i
  match s.enter with
  | .finished r => w.finish id r
  | _ =>
    match s.snapshot with
    | .resolving c => w.runScope id i c (w.provider.resolve c)
    | .issuing c scope => w.runToken id i (w.provider.authenticate c (some scope))
    | .finished r => w.finish id r
    | .admitted => w

/-- Gives a refresh its number. -/
def number (w : Sessions σ Q P A) : Sessions σ Q P A × Nat :=
  ({ w with nextId := w.nextId + 1 }, w.nextId)

/-- Whether a wait ends before another. Of waits that end together the caller's ends
first, then the one that began first. -/
def isBefore (caller : Option Nat) (later earlier : Underway Q P A) : Bool :=
  later.due < earlier.due || (later.due == earlier.due && some later.id == caller)

/-- The refresh whose wait ends first. -/
def earliest? (caller : Option Nat) : List (Underway Q P A) → Option (Underway Q P A)
  | [] => none
  | u :: rest =>
    match earliest? caller rest with
    | none => some u
    | some v => if isBefore caller v u then some v else some u

/-- Ends the wait of a refresh. -/
def resume (w : Sessions σ Q P A) (u : Underway Q P A) : Sessions σ Q P A :=
  let w := { w with
    now := max w.now u.due
    underway := w.underway.filter fun v => v.id != u.id }
  match u.awaited with
  | .turn => w.run u.id u.session
  | .scope c p next =>
    let (state, a) := w.other.deliver w.state w.now p
    { w with state }.runScope u.id u.session c (next a)
  | .token p next =>
    let (state, a) := w.other.deliver w.state w.now p
    { w with state }.runToken u.id u.session (next a)

/-- Ends all waits that end by a time. -/
def settle (limit : Millis) : Nat → Sessions σ Q P A → Sessions σ Q P A
  | 0, w => w
  | fuel + 1, w =>
    match earliest? none w.underway with
    | some u => if u.due ≤ limit then settle limit fuel (w.resume u) else w
    | none => w

/-- Whether a refresh is over. -/
def isOver (w : Sessions σ Q P A) (id : Nat) : Bool := w.finished.any fun f => f.1 == id

/-- Ends waits until a refresh is over. -/
def await (caller : Option Nat) (id : Nat) : Nat → Sessions σ Q P A → Sessions σ Q P A
  | 0, w => w
  | fuel + 1, w =>
    if w.isOver id then w
    else match earliest? caller w.underway with
      | some u => await caller id fuel (w.resume u)
      | none => w

/-- More waits than refreshes under way can have. -/
def patience (w : Sessions σ Q P A) : Nat := 8 * w.underway.length + 8

/-- The result of a refresh that is over. -/
def resultOf (w : Sessions σ Q P A) (id : Nat) : SessionAnswer :=
  match w.finished.find? fun f => f.1 == id with
  | some (_, r) => .result r
  | none => .none

/-- Performs an operation. -/
def perform (appliance : Address) (w : Sessions σ Q P A) : SessionOp →
    Sessions σ Q P A × SessionAnswer
  | .refresh i =>
    let (w, id) := w.number
    let w := w.run id i
    let w := await (some id) id w.patience w
    (w, w.resultOf id)
  | .beginRefresh i =>
    let (w, id) := w.number
    let w := { w with unjoined := w.unjoined ++ [id] }.park id i w.now .turn
    (settle w.now w.patience w, .text "started")
  | .join =>
    match w.unjoined with
    | [] => (w, .none)
    | id :: rest =>
      let w := { w with unjoined := rest }
      if w.isOver id then (w, w.resultOf id)
      else
        let w := await none id w.patience w
        let w := settle w.now w.patience w
        (w, w.resultOf id)
  | .copy i =>
    match (w.session i).copy with
    | .ok s => ({ w with sessions := w.sessions ++ [s] }, .result (.ok ()))
    | .error f => (w, .result (.error (.fault f)))
  | .dispose i => (w.put i (w.session i).dispose, .none)
  | .drop i => ({ w with dropped := i :: w.dropped }, .none)
  | .advance time =>
    let limit := w.now + time
    let w := settle limit w.patience w
    ({ w with now := limit }, .none)
  | .debug i => (w, .text ((w.session i).debug appliance))
  | .appliance => (w, .text appliance.shown)

/-- Sessions before the first operation: one of a credential. -/
def initial (other : Counterpart σ Q P A) (provider : TokenProvider Q A) (state : σ)
    (c : Credential) : Sessions σ Q P A where
  other; provider; state
  now := 0
  sessions := [Session.ofCredential c]
  dropped := []
  underway := []
  finished := []
  unjoined := []
  nextId := 0

/-- The sessions that were not dropped. -/
def kept (w : Sessions σ Q P A) : List (Option Session) :=
  w.sessions.mapIdx fun i s => if w.dropped.contains i then none else some s

/-- Performs operations in order and returns what each leaves. -/
def rehearse (appliance : Address) : Sessions σ Q P A → List SessionOp →
    List (Sessions σ Q P A × SessionAnswer)
  | _, [] => []
  | w, op :: rest =>
    let (w', answer) := w.perform appliance op
    (w', answer) :: rehearse appliance w' rest

end Sessions

end Appliance.Rehearsal
