import Appliance.Listener.Tenure
import Appliance.Rehearsal.Sessions
import Appliance.Session.Management

/-!
# Rehearsing a listener

A listener with a session whose token provider follows a script, and with a
transport that follows another: for every channel that is asked for, the script
says how long that takes, whether it fails, and when the channel ends by itself.
Time moves only while something waits. What falls due together comes in the
order in which its waits began, refreshes first.

* `Listening`          : the listener and all that surrounds it
* `Listening.settle`   : all that happens up to a moment
* `Listening.perform`  : one operation
* `Listening.rehearse` : a list of operations, with what is seen after each
-/

namespace Appliance.Rehearsal

open Listener (Input Effect Glance)

/-- How a channel ends by itself. -/
structure Fall where
  /-- The time after the opening. -/
  after : Millis
  /-- The events that are delivered then. -/
  events : List Event
  /-- The reason that is given. -/
  reason : DisconnectReason

/-- How a scripted transport opens one channel. -/
structure OpenEntry where
  delay : Option Millis
  fault : Option Fault
  fall : Option Fall

/-- A channel that opens at once and stays open. -/
def OpenEntry.plain : OpenEntry := ⟨none, none, none⟩

/-- What the transport notes. -/
inductive TransportNote where
  | opening (token : Token) (time : Millis)
  | closing (channel : Nat) (time : Millis)
  | released (channel : Nat)

/-- What is waited for besides refreshes. -/
inductive Waited where
  | retry
  | opening (channel : Nat) (entry : OpenEntry)
  | fall (channel : Nat) (f : Fall)

/-- Sessions that are refreshed by a scripted provider. -/
abbrev ScriptedSessions := Sessions Script Call (Call × ScriptEntry) Script.Delivery

/-- A listener and all that surrounds it. -/
structure Listening where
  appliance : Address
  sessions : ScriptedSessions
  /-- The session of the management service, if the listener has that one. -/
  management : Option ManagementSession
  /-- The number of the listener's session. -/
  held : Nat
  /-- The number of the session that the listener's user keeps. -/
  kept : Option Nat
  /-- The listener, unless it was given up. -/
  listener : Option Listener
  /-- Whether the shown states are noted. -/
  observed : Bool
  subscriptions : Subscriptions Handler
  entries : List OpenEntry
  /-- How many channels were asked for. -/
  opens : Nat
  /-- The channels that were opened, the last one first, each with its notification. -/
  channels : List (Nat × Notification)
  /-- The refresh that the listener has asked for. -/
  refreshing : Option Nat
  /-- In the order in which their waits began. -/
  waits : List (Millis × Waited)
  /-- What has happened and was not told the listener yet. -/
  pending : List Input
  states : List (ListenerState × Millis)
  notes : List TransportNote
  traces : List Trace
  replies : List (Nat × Except TokenService.Failure Unit)

/-- An operation around a listener. -/
inductive ListeningOp where
  /-- Calls that are made at once, in order. -/
  | calls (cs : List Listener.Call)
  | advance (time : Millis)
  /-- An operation on the registered handlers. -/
  | subscribe (op : Operation)
  /-- From now on the shown states are noted, or not. -/
  | observe (observed : Bool)
  | emit (e : Event)
  /-- The last channel ends. -/
  | disconnect (reason : DisconnectReason)
  | disposeSession
  | refreshSession
  | drop
  | debug

/-- The answer of an operation. -/
inductive ListeningAnswer where
  | none
  | text (s : String)
  | outcome (o : Outcome)
  | results (rs : List (Except TokenService.Failure Unit))
  /-- Whether the last channel took the notification. -/
  | notified (b : Bool)

namespace Listening

/-- The time. -/
def now (w : Listening) : Millis := w.sessions.now

/-- The time moves on. -/
def moveTo (w : Listening) (time : Millis) : Listening :=
  { w with sessions := { w.sessions with now := max w.sessions.now time } }

/-- The listener's session. -/
def session (w : Listening) : Session := w.sessions.session w.held

/-- What the listener's session shows. -/
def glance (w : Listening) : Glance :=
  match w.management with
  | some _ => ⟨0, none⟩
  | none => ⟨w.session.secondsLeft (instant w.now), w.session.accessToken⟩

/-- Something is to be told the listener. -/
def tell (w : Listening) (input : Input) : Listening := { w with pending := w.pending ++ [input] }

/-- A wait begins. -/
def await (w : Listening) (delay : Millis) (what : Waited) : Listening :=
  { w with waits := w.waits ++ [(w.now + delay, what)] }

/-- The listener's session ends. -/
def endSession (w : Listening) : Listening :=
  match w.management with
  | some m => { w with management := some m.dispose }
  | none => { w with sessions := w.sessions.put w.held w.session.dispose }

/-! ## Refreshes -/

/-- Tells the listener of its refresh, if that is over. -/
def reportRefresh (w : Listening) : Listening :=
  match w.refreshing with
  | none => w
  | some id =>
    match w.sessions.resultOf id with
    | .result r => { w with refreshing := none }.tell (.refreshed r)
    | _ => w

/-- Begins a refresh of the listener's session and returns its number. -/
def beginRefresh (w : Listening) : Listening × Nat :=
  let (sessions, id) := w.sessions.number
  ({ w with sessions := sessions.run id w.held }, id)

/-- The listener asks for a refresh. -/
def refresh (w : Listening) : Listening :=
  match w.management with
  | some m => w.tell (.refreshed (m.refresh.mapError .fault))
  | none =>
    let (w, id) := w.beginRefresh
    { w with refreshing := some id }.reportRefresh

/-! ## Channels -/

/-- Gives a channel's notification, unless it was given before. -/
def notify (w : Listening) (channel : Nat) (reason : DisconnectReason) : Listening :=
  match w.channels.lookup channel with
  | some .owed =>
    { w with
      channels := w.channels.map fun (n, note) =>
        if n = channel then (n, Notification.settle note reason) else (n, note) }.tell
      (.disconnected channel reason)
  | _ => w

/-- Ends an attempt to open a channel. -/
def finishOpen (w : Listening) (channel : Nat) (entry : OpenEntry) : Listening :=
  match entry.fault with
  | some f => w.tell (.opened (.error f))
  | none =>
    let w := { w with channels := (channel, .owed) :: w.channels }
    let w := match entry.fall with
      | some f => w.await f.after (.fall channel f)
      | none => w
    w.tell (.opened (.ok channel))

/-- Begins an attempt to open a channel. -/
def beginOpen (w : Listening) (token : Token) : Listening :=
  let channel := w.opens + 1
  let entry := w.entries.headD .plain
  let w := { w with
    opens := channel
    entries := w.entries.tail
    notes := w.notes ++ [TransportNote.opening token w.now] }
  match entry.delay.filter (0 < ·) with
  | some d => w.await d (.opening channel entry)
  | none => w.finishOpen channel entry

/-- Performs an operation on the registered handlers. -/
def subscribe (w : Listening) (op : Operation) : Listening × Answer :=
  let p := w.subscriptions.perform op
  ({ w with subscriptions := p.subscriptions, traces := w.traces ++ p.traces }, p.answer)

/-- A channel ends by itself. Its events come even after it was closed. -/
def fall (w : Listening) (channel : Nat) (f : Fall) : Listening :=
  let (subscriptions, traces) := w.subscriptions.deliver f.events
  { w with subscriptions, traces := w.traces ++ traces }.notify channel f.reason

/-! ## The listener's effects -/

/-- Whether the listener itself waits for something. -/
def isListeners : Waited → Bool
  | .retry | .opening _ _ => true
  | .fall _ _ => false

/-- Lets go of what the listener has asked for last. -/
def abandon (w : Listening) : Listening :=
  { w with
    waits := w.waits.filter fun e => !isListeners e.2
    refreshing := none
    sessions := { w.sessions with
      underway := w.sessions.underway.filter fun u => some u.id != w.refreshing } }

/-- Performs an effect. -/
def act (w : Listening) : Effect → Listening
  | .show s => if w.observed then { w with states := w.states ++ [(s, w.now)] } else w
  | .attempt _ _ => w
  | .refresh => w.refresh
  | .openChannel token => w.beginOpen token
  | .close channel =>
    ({ w with notes := w.notes ++ [TransportNote.closing channel w.now] }.notify channel .graceful).tell
      (.closed channel)
  | .release channel => { w with notes := w.notes ++ [TransportNote.released channel] }
  | .wait delay => w.await delay.millisUp .retry
  | .abandon => w.abandon
  | .disposeSession => w.endSession
  | .reply ticket r => { w with replies := w.replies ++ [(ticket, r)] }

/-- Tells the listener one thing. -/
def feed (w : Listening) (input : Input) : Listening :=
  match w.listener with
  | none => w
  | some l =>
    let (l, effects) := l.step w.glance input
    effects.foldl act { w with listener := some l }

/-- What the listener's loop does without being told. -/
def spontaneous? (w : Listening) : Option Input :=
  match w.listener.bind Listener.supervisor with
  | none => none
  | some s =>
    match s.cancelled, s.loop with
    | true, .watching _ | true, .waiting _ | true, .ready _ | true, .attempting _ _ => some .noticed
    | false, .ready _ => some .proceed
    | _, _ => none

/-- Tells the listener all there is to tell. -/
def converse : Nat → Listening → Listening
  | 0, w => w
  | fuel + 1, w =>
    match w.pending with
    | input :: rest => converse fuel ({ w with pending := rest }.feed input)
    | [] =>
      match w.spontaneous? with
      | some input => converse fuel (w.feed input)
      | none => w

/-- More steps than a rehearsal takes. -/
def patience : Nat := 1000000

/-! ## Time -/

/-- What is next to happen. -/
inductive Upcoming where
  | refresh (u : Underway Call (Call × ScriptEntry) Script.Delivery)
  | wait (due : Millis) (position : Nat) (what : Waited)

/-- When it happens. -/
def Upcoming.due : Upcoming → Millis
  | .refresh u => u.due
  | .wait due _ _ => due

/-- The wait that ends first, with its position; of several the one that began first. -/
def firstWait : List (Millis × Waited) → Option (Millis × Nat × Waited)
  | [] => none
  | (due, what) :: rest =>
    match firstWait rest with
    | some (due', i, what') => if due' < due then some (due', i + 1, what') else some (due, 0, what)
    | none => some (due, 0, what)

/-- What is next to happen, if anything is. -/
def upcoming? (w : Listening) (caller : Option Nat) : Option Upcoming :=
  match Sessions.earliest? caller w.sessions.underway, firstWait w.waits with
  | none, none => none
  | some u, none => some (.refresh u)
  | none, some (due, i, what) => some (.wait due i what)
  | some u, some (due, i, what) =>
    if u.due ≤ due then some (.refresh u) else some (.wait due i what)

/-- It happens. -/
def happen (w : Listening) (next : Upcoming) : Listening :=
  let w := w.moveTo next.due
  let w := match next with
    | .refresh u => { w with sessions := w.sessions.resume u }.reportRefresh
    | .wait _ i what =>
      let w := { w with waits := w.waits.eraseIdx i }
      match what with
      | .retry => w.tell .elapsed
      | .opening channel entry => w.finishOpen channel entry
      | .fall channel f => w.fall channel f
  converse patience w

/-- All that happens up to a moment. -/
def settle (limit : Millis) : Nat → Listening → Listening
  | 0, w => w
  | fuel + 1, w =>
    match w.upcoming? none with
    | some next => if next.due ≤ limit then settle limit fuel (w.happen next) else w
    | none => w

/-- All that happens until something is the case. -/
def runUntil (isDone : Listening → Bool) (caller : Option Nat) : Nat → Listening → Listening
  | 0, w => w
  | fuel + 1, w =>
    if isDone w then w
    else match w.upcoming? caller with
      | some next => runUntil isDone caller fuel (w.happen next)
      | none => w

/-! ## Operations -/

/-- Makes calls at once and waits for their answers. -/
def call (w : Listening) (cs : List Listener.Call) : Listening × ListeningAnswer :=
  let w := { w with replies := [] }
  let w := cs.zipIdx.foldl (fun w (c, ticket) => converse patience (w.tell (.call ticket c))) w
  let w := runUntil (fun w => w.listener.isNone || cs.length ≤ w.replies.length) none patience w
  (w, .results (w.replies.map (·.2)))

/-- The listener is given up. -/
def giveUp (w : Listening) : Listening :=
  match w.listener with
  | none => w
  | some l => l.drop.foldl act { w with listener := none }

/-- Performs an operation. -/
def perform (w : Listening) : ListeningOp → Listening × ListeningAnswer
  | .calls cs => w.call cs
  | .advance time =>
    let limit := w.now + time
    ((settle limit patience w).moveTo limit, .none)
  | .subscribe op => ((w.subscribe op).1, .none)
  | .observe observed => ({ w with observed }, .none)
  | .emit e =>
    if w.channels.isEmpty then (w, .notified false)
    else
      match w.subscribe (.dispatch e) with
      | (w, .outcome o) => (w, .outcome o)
      | (w, _) => (w, .none)
  | .disconnect reason =>
    match w.channels with
    | (channel, .owed) :: _ => (w.notify channel reason, .notified true)
    | _ => (w, .notified false)
  | .disposeSession => (w.endSession, .none)
  | .refreshSession =>
    match w.management with
    | some m => (w, .results [m.refresh.mapError .fault])
    | none =>
      let (w, id) := w.beginRefresh
      let w := runUntil (fun w => w.sessions.isOver id) (some id) patience w
      match w.sessions.resultOf id with
      | .result r => (w, .results [r])
      | _ => (w, .none)
  | .drop => (w.giveUp, .none)
  | .debug =>
    match w.listener with
    | some l => (w, .text (l.debug w.appliance w.subscriptions))
    | none => (w, .none)

/-- Performs an operation, and lets happen what takes no time. -/
def performFully (w : Listening) (op : ListeningOp) : Listening × ListeningAnswer :=
  let w := { w with states := [], notes := [], traces := [] }
  let (w, answer) := w.perform op
  let w := converse patience w
  (settle w.now patience w, answer)

/-- Performs operations in order and returns what each leaves. -/
def rehearse : Listening → List ListeningOp → List (Listening × ListeningAnswer)
  | _, [] => []
  | w, op :: rest =>
    let (w', answer) := w.performFully op
    (w', answer) :: rehearse w' rest

/-! ## Beginnings -/

/-- Whose session a listener gets. -/
abbrev Ownership := Listener.Ownership

/-- The beginning of a rehearsal with a listener that was not started, and the first of
the given sessions, which the listener gets as `ownership` says. -/
def initial (appliance : Address) (sessions : ScriptedSessions)
    (management : Option ManagementSession) (ownership : Ownership) (backoff : Backoff)
    (observed : Bool) (entries : List OpenEntry) : Except Fault Listening :=
  let w : Listening := {
    appliance, sessions, management, observed, entries
    held := 0
    kept := none
    listener := some (Listener.fresh backoff ownership.ownsSession)
    subscriptions := Subscriptions.empty
    opens := 0
    channels := []
    refreshing := none
    waits := []
    pending := []
    states := []
    notes := []
    traces := []
    replies := [] }
  match ownership, management with
  | .owned, _ => .ok w
  | .shared, _ => .ok { w with kept := some 0 }
  | .cloned, some m => m.copy.map fun _ => w
  | .cloned, none =>
    (sessions.session 0).copy.map fun s =>
      { w with
        sessions := { sessions with sessions := sessions.sessions ++ [s] }
        held := sessions.sessions.length
        kept := some 0 }

end Listening

end Appliance.Rehearsal
