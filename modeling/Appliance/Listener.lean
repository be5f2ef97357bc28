import Appliance.Disconnect
import Appliance.Listener.Options
import Appliance.Listener.State
import Appliance.Session
import Appliance.Subscriptions

/-!
# Listeners

A listener keeps a channel open: it lets its session refresh the token when the
token has run out or was refused, opens a channel with it, and does so again
after a wait when the attempt failed or the channel ended. The calls `start`,
`stop` and `dispose` are served one after another.

The listener is a machine. It takes inputs (a call, the answer of the session or
the transport, the end of a channel, the end of a wait) and returns effects (what
it asks of them, the states it shows, the answers of its calls). It asks for one
thing at a time, and an input that answers nothing it has asked for changes
nothing. Cancelling the loop and the loop's notice of it are two moments, since
anything the loop waits for may come in between.

* `Listener`            : the machine's state
* `Listener.Input`, `Listener.Effect` : what goes in and comes out
* `Listener.step`       : one input
* `Listener.drop`       : the listener is given up
-/

namespace Appliance

namespace Listener

/-- What a session shows at one moment. -/
structure Glance where
  secondsLeft : Nat
  token : Option Token
deriving DecidableEq

/-- The calls of a listener's user. -/
inductive Call where
  | start
  | stop
  | dispose
deriving DecidableEq, Repr

/-- What an attempt to open a channel waits for. -/
inductive Stage where
  | refreshing
  | opening
deriving DecidableEq, Repr

/-- Where the loop that keeps a channel open has come to. Channels go by number. -/
inductive Loop where
  /-- A channel is open. -/
  | watching (channel : Nat)
  /-- A channel is being closed: after its end with a reason, or because of a cancel. -/
  | closing (channel : Nat) (reason : Option DisconnectReason)
  /-- The wait before an attempt goes on. -/
  | waiting (attempt : Nat)
  /-- An attempt is about to begin. -/
  | ready (attempt : Nat)
  | attempting (attempt : Nat) (stage : Stage)
  | ended
deriving DecidableEq

/-- The loop with what it keeps. -/
structure Supervisor where
  loop : Loop
  /-- Whether the loop shall end. -/
  cancelled : Bool
  /-- Whether the next attempt shall begin with a refresh. -/
  refreshNext : Bool
deriving DecidableEq

/-- The call that is being served. Calls go by a ticket. -/
inductive Serving where
  | nothing
  | starting (ticket : Nat) (stage : Stage)
  /-- The end of the loop is waited for, and then the listener may be disposed of. -/
  | stopping (ticket : Nat) (disposing : Bool)
deriving DecidableEq

/-- What goes in. -/
inductive Input where
  | call (ticket : Nat) (c : Call)
  /-- The session has tried to get a new token. -/
  | refreshed (result : Except TokenService.Failure Unit)
  /-- The transport has tried to open a channel. -/
  | opened (result : Except Fault Nat)
  | disconnected (channel : Nat) (reason : DisconnectReason)
  | closed (channel : Nat)
  /-- The wait is over. -/
  | elapsed
  /-- The loop goes on with its attempt. -/
  | proceed
  /-- The loop notices that it shall end. -/
  | noticed

/-- What comes out. -/
inductive Effect where
  /-- A new state is shown. -/
  | show (state : ListenerState)
  /-- An attempt to open a channel begins: the first one of a start, or one of the loop. -/
  | attempt (first : Bool) (seen : Glance)
  /-- The session shall get a new token. -/
  | refresh
  /-- The transport shall open a channel. -/
  | openChannel (token : Token)
  /-- The channel shall close. -/
  | close (channel : Nat)
  /-- The channel is not held any more. -/
  | release (channel : Nat)
  /-- A wait begins. -/
  | wait (delay : Duration)
  /-- What was asked for last is not wanted any more. -/
  | abandon
  | disposeSession
  | reply (ticket : Nat) (result : Except TokenService.Failure Unit)

end Listener

open Listener in
/-- The state of a listener. -/
structure Listener where
  backoff : Backoff
  /-- Whether the session ends with the listener. -/
  ownsSession : Bool
  state : ListenerState
  disposed : Bool
  supervisor : Option Supervisor
  serving : Serving
  /-- The calls that wait for their turn. -/
  queue : List (Nat × Call)

namespace Listener

/-- A listener that was not started. -/
def fresh (backoff : Backoff) (ownsSession : Bool) : Listener where
  backoff; ownsSession
  state := .disconnected
  disposed := false
  supervisor := none
  serving := .nothing
  queue := []

/-! ## Moves -/

/-- A listener with the effects that led to it. -/
abbrev Move := Listener × List Effect

/-- No effects. -/
def still (l : Listener) : Move := (l, [])

/-- One move after another. -/
def Move.andThen (m : Move) (f : Listener → Move) : Move :=
  let next := f m.1
  (next.1, m.2 ++ next.2)

/-- Effects after a move. -/
def Move.also (m : Move) (effects : List Effect) : Move := (m.1, m.2 ++ effects)

/-- An effect before a move. -/
def Move.led (m : Move) (effect : Effect) : Move := (m.1, effect :: m.2)

/-- Changes the state, and shows it if it is another one. -/
def goto (l : Listener) (next : ListenerState) : Move :=
  ({ l with state := next }, if l.state = next then [] else [.show next])

/-- Moves the loop. -/
def withLoop (l : Listener) (s : Supervisor) (loop : Loop) : Listener :=
  { l with supervisor := some { s with loop } }

/-! ## Attempts -/

/-- What an attempt asks for: a new token of the session, or a channel of the transport. -/
inductive Ask where
  | refresh
  | openChannel (token : Token)

/-- What the attempt then waits for. -/
def Ask.stage : Ask → Stage
  | .refresh => .refreshing
  | .openChannel _ => .opening

/-- The asking. -/
def Ask.effect : Ask → Effect
  | .refresh => .refresh
  | .openChannel token => .openChannel token

/-- How an attempt goes on. -/
inductive Advance where
  | asks (a : Ask)
  | fails (f : Fault)

/-- Opens a channel with the token that the session holds. -/
def openWith (g : Glance) : Advance :=
  match g.token with
  | some token => .asks (.openChannel token)
  | none => .fails Session.disposedFault

/-- Begins an attempt. A token without a second left is refreshed first. -/
def beginAttempt (g : Glance) (refreshFirst : Bool) : Advance :=
  if refreshFirst || g.secondsLeft = 0 then .asks .refresh else openWith g

/-- What an answer means for the attempt that waits for it. -/
inductive Turn where
  | advances (a : Advance)
  | opens (channel : Nat)
  /-- The session breaks off. -/
  | breaks

/-- What an input means for an attempt, if the attempt waits for it. -/
def turn? (g : Glance) : Stage → Input → Option Turn
  | .refreshing, .refreshed (.ok _) => some (.advances (openWith g))
  | .refreshing, .refreshed (.error (.fault f)) => some (.advances (.fails f))
  | .refreshing, .refreshed (.error .beyondClock) => some .breaks
  | .opening, .opened (.ok channel) => some (.opens channel)
  | .opening, .opened (.error f) => some (.advances (.fails f))
  | _, _ => none

/-! ## The first attempt, made by a call -/

/-- Serves no call any more. -/
def answer (l : Listener) (ticket : Nat) (result : Except TokenService.Failure Unit) : Move :=
  ({ l with serving := .nothing }, [.reply ticket result])

/-- The first attempt has failed. A fault that may pass leaves it to the loop to try again. -/
def firstFailed (l : Listener) (ticket : Nat) (f : Fault) : Move :=
  if f.isFatal then
    (l.goto .permanentlyFailed).andThen fun l => l.answer ticket (.error (.fault f))
  else
    let s : Supervisor := ⟨.waiting 1, false, f.isTokenRefused⟩
    ((({ l with supervisor := some s }).goto .retryScheduled).also
      [.wait (l.backoff.delay 1)]).andThen fun l => l.answer ticket (.ok ())

/-- The first attempt has opened a channel. -/
def firstOpened (l : Listener) (ticket channel : Nat) : Move :=
  (({ l with supervisor := some ⟨.watching channel, false, false⟩ }).goto .connected).andThen
    fun l => l.answer ticket (.ok ())

/-- Goes on with the first attempt. -/
def firstAdvance (l : Listener) (ticket : Nat) : Advance → Move
  | .asks a => ({ l with serving := .starting ticket a.stage }, [a.effect])
  | .fails f => l.firstFailed ticket f

/-- Makes the first attempt. -/
def firstAttempt (l : Listener) (g : Glance) (ticket : Nat) : Move :=
  (l.firstAdvance ticket (beginAttempt g false)).led (.attempt true g)

/-- An answer for the first attempt. A session that breaks off ends the call and nothing else. -/
def firstTurn (l : Listener) (ticket : Nat) : Turn → Move
  | .advances a => l.firstAdvance ticket a
  | .opens channel => l.firstOpened ticket channel
  | .breaks => l.answer ticket (.error .beyondClock)

/-! ## The attempts of the loop -/

/-- An attempt of the loop has failed. -/
def attemptFailed (l : Listener) (s : Supervisor) (attempt : Nat) (f : Fault) : Move :=
  if f.isFatal then (l.withLoop s .ended).goto .permanentlyFailed
  else
    let next := Backoff.nextAttempt attempt
    ((l.withLoop { s with refreshNext := f.isTokenRefused } (.waiting next)).goto
      .retryScheduled).also [.wait (l.backoff.delay next)]

/-- An attempt of the loop has opened a channel. -/
def attemptOpened (l : Listener) (s : Supervisor) (channel : Nat) : Move :=
  (l.withLoop { s with refreshNext := false } (.watching channel)).goto .connected

/-- Goes on with an attempt of the loop. -/
def attemptAdvance (l : Listener) (s : Supervisor) (attempt : Nat) : Advance → Move
  | .asks a => (l.withLoop s (.attempting attempt a.stage), [a.effect])
  | .fails f => l.attemptFailed s attempt f

/-- Makes an attempt of the loop. -/
def loopAttempt (l : Listener) (g : Glance) (s : Supervisor) (attempt : Nat) : Move :=
  (l.attemptAdvance s attempt (beginAttempt g s.refreshNext)).led (.attempt false g)

/-- An answer for an attempt of the loop. A session that breaks off ends the loop and
nothing else. -/
def attemptTurn (l : Listener) (s : Supervisor) (attempt : Nat) : Turn → Move
  | .advances a => l.attemptAdvance s attempt a
  | .opens channel => l.attemptOpened s channel
  | .breaks => still (l.withLoop s .ended)

/-! ## The end of a channel -/

/-- The channel is closed. Without a reason it was closed because of a cancel. -/
def channelClosed (l : Listener) (s : Supervisor) (channel : Nat) (reason : Option DisconnectReason) :
    Move :=
  match reason with
  | none => (l.withLoop s .ended, [.release channel])
  | some r =>
    if r.isPermanent then
      ((l.withLoop s .ended).goto .permanentlyFailed).also [.release channel]
    else if r = .graceful ∧ s.cancelled then (l.withLoop s .ended, [.release channel])
    else
      ((l.withLoop s (.waiting 1)).goto .retryScheduled).also
        [.release channel, .wait (l.backoff.delay 1)]

/-- The loop notices that it shall end, and lets go of what it waits for. A channel that
is open is closed first. -/
def notice (l : Listener) (s : Supervisor) : Move :=
  match s.loop with
  | .watching channel => (l.withLoop s (.closing channel none), [.close channel])
  | .waiting _ | .attempting _ _ => (l.withLoop s .ended, [.abandon])
  | .ready _ => still (l.withLoop s .ended)
  | .closing _ _ | .ended => still l

/-! ## Serving calls -/

/-- Takes the loop, which has ended, off the listener. -/
def afterLoop (l : Listener) : Move :=
  let l := { l with supervisor := none }
  if l.state.isTerminal then still l else l.goto .disconnected

/-- Ends the session, if it is the listener's own, and the listener. -/
def dismiss (l : Listener) : Move :=
  Move.andThen (l, if l.ownsSession then [.disposeSession] else []) fun l =>
    if l.state.isTerminal then still l else l.goto .permanentlyFailed

/-- Ends a call that waited for the end of the loop. -/
def finishStop (l : Listener) (ticket : Nat) (disposing : Bool) : Move :=
  (l.afterLoop.andThen fun l => if disposing then l.dismiss else still l).andThen fun l =>
    l.answer ticket (.ok ())

/-- Cancels the loop and waits for its end. -/
def beginStop (l : Listener) (ticket : Nat) (disposing : Bool) : Move :=
  match l.supervisor with
  | none => l.finishStop ticket disposing
  | some s =>
    if s.loop = .ended then l.finishStop ticket disposing
    else still { l with
      supervisor := some { s with cancelled := true }
      serving := .stopping ticket disposing }

/-- Begins to serve a call. -/
def serve (l : Listener) (g : Glance) (ticket : Nat) : Call → Move
  | .start =>
    if l.disposed then l.answer ticket (.error (.fault (.listener .disposed)))
    else if l.state.isTerminal then
      l.answer ticket (.error (.fault (.listener .permanentlyFailed)))
    else if l.supervisor.isSome then l.answer ticket (.ok ())
    else (l.goto .connecting).andThen fun l => l.firstAttempt g ticket
  | .stop => l.beginStop ticket false
  | .dispose =>
    if l.disposed then l.answer ticket (.ok ())
    else { l with disposed := true }.beginStop ticket true

/-- Serves calls in order until one has to wait. -/
def serveAll (g : Glance) : List (Nat × Call) → Listener → Move
  | [], l => still { l with queue := [] }
  | (ticket, c) :: rest, l =>
    (l.serve g ticket c).andThen fun l =>
      if l.serving = .nothing then serveAll g rest l else still { l with queue := rest }

/-- Serves the calls that wait, if none is being served. -/
def serveNext (l : Listener) (g : Glance) : Move :=
  if l.serving = .nothing then serveAll g l.queue l else still l

/-- Ends the call that waited for the loop, if the loop has ended. -/
def joinLoop (l : Listener) : Move :=
  match l.serving, l.supervisor with
  | .stopping ticket disposing, some s =>
    if s.loop = .ended then l.finishStop ticket disposing else still l
  | _, _ => still l

/-! ## Inputs -/

/-- An input while the first attempt is made. -/
def firstInput (l : Listener) (g : Glance) (ticket : Nat) (stage : Stage) (input : Input) : Move :=
  match turn? g stage input with
  | some turn => l.firstTurn ticket turn
  | none => still l

/-- An input for the loop. -/
def loopInput (l : Listener) (g : Glance) (s : Supervisor) (input : Input) : Move :=
  match s.loop, input with
  | _, .noticed => if s.cancelled then l.notice s else still l
  | .watching channel, .disconnected n r =>
    if n = channel then (l.withLoop s (.closing channel (some r)), [.close channel]) else still l
  | .closing channel reason, .closed n =>
    if n = channel then l.channelClosed s channel reason else still l
  | .waiting attempt, .elapsed => (l.withLoop s (.ready attempt)).goto .connecting
  | .ready attempt, .proceed => l.loopAttempt g s attempt
  | .attempting attempt stage, input =>
    match turn? g stage input with
    | some turn => l.attemptTurn s attempt turn
    | none => still l
  | _, _ => still l

/-- Takes an input. Calls only queue up. -/
def hear (l : Listener) (g : Glance) (input : Input) : Move :=
  match input with
  | .call ticket c => still { l with queue := l.queue ++ [(ticket, c)] }
  | _ =>
    match l.serving, l.supervisor with
    | .starting ticket stage, _ => l.firstInput g ticket stage input
    | _, some s => l.loopInput g s input
    | _, none => still l

/-- One input, and then the calls whose turn has come. The glance shows the session at
this moment. -/
def step (l : Listener) (g : Glance) (input : Input) : Move :=
  ((l.hear g input).andThen joinLoop).andThen fun l => l.serveNext g

/-- The listener is given up: the loop ends where it stands, without closing its channel. -/
def drop (l : Listener) : List Effect :=
  (match l.supervisor with
    | some s =>
      match s.loop with
      | .watching channel | .closing channel _ => [.release channel]
      | .waiting _ | .attempting _ _ => [.abandon]
      | .ready _ | .ended => []
    | none => []) ++
  (if l.ownsSession then [.disposeSession] else [])

/-- The diagnostic text. -/
def debug (l : Listener) (appliance : Address) (subscriptions : Subscriptions Handler) : String :=
  Credential.recordText "PersistentEventListener"
    [("appliance", appliance.debug), ("state", l.state.debug),
      ("subscriptions", subscriptions.debug),
      ("owns_session", TokenService.Options.boolText l.ownsSession)]

end Listener

end Appliance
