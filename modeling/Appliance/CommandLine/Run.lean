import Appliance.CommandLine.World
import Appliance.Listener
import Appliance.Prompt
import Appliance.Session

/-!
# Running a command

The program from its arguments to its exit code, in a world that provides what it
needs. A part of it that fails ends it with an outcome.

* `Outcome`       : what is printed at the end, and the exit code
* `connect`       : the session of a connection, with its first token
* `getToken`      : the command that gets a token
* `listenOnce`, `keepListening` : the command that listens
* `run`           : the whole program
-/

namespace Appliance.CommandLine

/-- How the program ends. -/
structure Outcome where
  lines : List Line
  code : Nat

namespace Outcome

/-- Everything went well. -/
def success (lines : List Line) : Outcome := ⟨lines, 0⟩

/-- Something failed. -/
def failure (r : Report) : Outcome := ⟨Line.report r, 1⟩

/-- The program broke off. -/
def crash : Outcome := ⟨[], 101⟩

/-- A failure of the network or the appliance. -/
def ofFailure (context : String) : TokenService.Failure → Outcome
  | .fault f => failure (Report.ofFault context f)
  | .beyondClock => crash

/-- How the program says what it is for. -/
def usage : String := "Usage: safeguard [OPTIONS] <COMMAND>"

/-- Arguments that are refused, or that ask for something else. -/
def ofUsage : UsageFault → Outcome
  | .helpWanted => success [.out usage]
  | .versionWanted => success [.out "safeguard 0.1.0"]
  | _ => ⟨[.err usage], 2⟩

end Outcome

/-- A part of the program, which may end the program. -/
abbrev Part (m : Type → Type) (α : Type) : Type := ExceptT Outcome m α

variable {m : Type → Type} [Monad m]

/-! ## Connecting -/

/-- The password that is wanted. -/
def passwordFor (w : World m) (c : Connection) (wanted : Connection.Wanted) :
    m (Except Report Secret) :=
  if c.readPassword then do
    let input ← w.piped
    return (Prompt.ofPipe input).mapError fun f => ⟨f.message, f.cause?.toList⟩
  else w.typed wanted.label

/-- The credential that a password completes. -/
def completed (w : World m) (wanted : Connection.Wanted) (password : Secret) :
    m (Except Report Credential) :=
  match wanted with
  | .certificate path => do
    let content ← w.file path
    return (Credential.certificateFile path content password).mapError fun f =>
      Report.ofFault "Failed to load certificate" (.input f)
  | .user name =>
    pure ((Credential.password name password).mapError fun f =>
      Report.ofFault "Invalid username" (.input f))

/-- The credential, with the password that is piped in or typed. -/
def credentialOf (w : World m) (c : Connection) : ExceptT Report m Credential := do
  match ← liftExcept c.credential with
  | .inl credential => return credential
  | .inr wanted =>
    let password ← ExceptT.mk (passwordFor w c wanted)
    return c.withProvider (← ExceptT.mk (completed w wanted password))
where
  liftExcept {α : Type} (r : Except Report α) : ExceptT Report m α := ExceptT.mk (pure r)

/-- What is said before the first request. -/
def announcement (a : Address) : Line := .err ("Authenticating to " ++ a.shown ++ "...")

/-- A session with what its refreshes need. -/
structure Entered where
  address : Address
  service : TokenService.Options
  session : Session

/-- Refreshes a session. -/
def Entered.refresh (w : World m) (e : Entered) : m (Entered × Except TokenService.Failure Unit) := do
  let (session, r) ← w.converse e.service
    (e.session.refresh (TokenService.provider w.platform e.address e.service))
  return ({ e with session }, r)

/-- Refreshes a session, or ends the program. -/
def Entered.renewed (w : World m) (context : String) (e : Entered) : Part m Entered :=
  ExceptT.mk do
    match ← e.refresh w with
    | (e, .ok _) => return .ok e
    | (_, .error f) => return .error (.ofFailure context f)

/-- A report that ends the program. -/
def reported {α : Type} (r : ExceptT Report m α) : Part m α := r.adapt Outcome.failure

/-- The session of a connection, with its first token. The address is judged first. -/
def connect (w : World m) (c : Connection) : Part m Entered := do
  let address ← reported (ExceptT.mk (pure c.address))
  let credential ← reported (credentialOf w c)
  w.print [announcement address]
  let store ← match c.certStore with
    | none => pure none
    | some folder => some <$> w.certificates folder credential
  Entered.renewed w "Failed to authenticate"
    ⟨address, c.serviceOptions store, Session.ofCredential credential⟩

/-- The connection of a command. -/
def Command.connection : Command → Connection
  | .token c => c.connection
  | .listen c => c.connection

/-! ## Getting a token -/

/-- The token that a session holds. -/
def heldToken (s : Session) : Except Report Token :=
  match s.accessToken with
  | some token => .ok token
  | none => .error (Report.plain "Session holds no token")

/-- The end of the command that gets a token. -/
def tokenOutcome (c : TokenCommand) (e : Entered) (stamps : Stamps) (now : Instant) : Outcome :=
  match heldToken e.session with
  | .error r => .failure r
  | .ok token =>
    let summary : TokenSummary :=
      ⟨e.address.text, e.session.secondsLeft now, if c.showToken then some token.text else none⟩
    .success (summary.lines stamps c.json)

/-- Gets a token. -/
def getToken (w : World m) (c : TokenCommand) (e : Entered) : Part m Outcome := do
  let e ← if c.refresh then e.renewed w "Failed to refresh access token" else pure e
  return tokenOutcome c e (← w.stamps) (← w.now)

/-! ## Listening to one channel -/

/-- What is said before listening. -/
def listenHint : List Line := [.err "Press Ctrl+C to stop.", .err ""]

/-- Shows a state, unless the command is to be quiet. -/
def showState (w : World m) (c : ListenCommand) (s : ListenerState) : m Unit := do
  if !c.quiet then w.print [Line.state (← w.stamps) s]

/-- The end of a channel that is listened to once. -/
def onceOutcome : DisconnectReason → Outcome
  | .graceful => .success []
  | .permanent detail =>
    .failure (Report.plain ("Appliance closed the event channel: " ++ detail))
  | reason => .success [.err ("✗ Disconnected: " ++ reason.message)]

/-- Waits for the end of the only channel. An interrupt closes it. -/
def awaitEnd (w : World m) : m DisconnectReason := do
  match ← w.next with
  | .ended reason => return reason
  | _ => w.closeChannel

/-- Listens to one channel. -/
def listenOnce (w : World m) (c : ListenCommand) (e : Entered) : Part m Outcome := do
  let token ← reported (ExceptT.mk (pure (heldToken e.session)))
  reported (ExceptT.mk do
    return (← w.openChannel c e.address token).mapError fun f =>
      Report.ofFault "Failed to open event channel" f)
  ExceptT.lift (showState w c .connected)
  return onceOutcome (← ExceptT.lift (awaitEnd w))

/-! ## Listening on and on -/

/-- How far a command that keeps listening has come. -/
inductive Watch where
  /-- The listener starts. -/
  | starting
  | running
  /-- The listener is disposed of, and then the program ends. -/
  | leaving (outcome : Outcome)

namespace Watch

/-- The listener has started, or has failed to. -/
def started (result : Except TokenService.Failure Unit) : Watch :=
  match result with
  | .ok _ => .running
  | .error f => .leaving (.ofFailure "Failed to start event listener" f)

/-- What the command does when it sees a state of the listener. Only a running one that
has failed for good ends the command. -/
def seeing (w : Watch) (s : ListenerState) : Watch :=
  match w with
  | .running =>
    if s.isTerminal then
      .leaving (.failure (Report.plain "Event listener failed permanently"))
    else w
  | w => w

/-- The user interrupts the command. -/
def interrupted (w : Watch) : Watch :=
  match w with
  | .running => .leaving (.success [])
  | w => w

end Watch

/-- A command that keeps listening. -/
structure Listening where
  command : ListenCommand
  entered : Entered
  listener : Listener
  watch : Watch
  /-- How many channels were opened or failed to. -/
  opens : Nat
  /-- What the listener is still to be told. -/
  pending : List Listener.Input

namespace Listening

/-- The call that starts the listener. -/
def startTicket : Nat := 0

/-- The call that disposes of it. -/
def disposeTicket : Nat := 1

/-- A listener that is about to start. -/
def begin (c : ListenCommand) (e : Entered) : Listening where
  command := c
  entered := e
  listener := Listener.fresh c.options.backoff true
  watch := .starting
  opens := 0
  pending := [.call startTicket .start]

/-- Something is to be told the listener. -/
def tell (l : Listening) (input : Listener.Input) : Listening :=
  { l with pending := l.pending ++ [input] }

/-- What the session shows. -/
def glance (l : Listening) (now : Instant) : Listener.Glance :=
  ⟨l.entered.session.secondsLeft now, l.entered.session.accessToken⟩

/-- Performs an effect of the listener. -/
def act (w : World m) (l : Listening) : Listener.Effect → m Listening
  | .show s => do
    showState w l.command s
    return { l with watch := l.watch.seeing s }
  | .attempt _ _ => return l
  | .refresh => do
    let (entered, r) ← l.entered.refresh w
    return { l with entered }.tell (.refreshed r)
  | .openChannel token => do
    let r ← w.openChannel l.command l.entered.address token
    return { l with opens := l.opens + 1 }.tell (.opened (r.map fun _ => l.opens + 1))
  | .close n => do
    let _ ← w.closeChannel
    return l.tell (.closed n)
  | .release _ => return l
  | .wait delay => do
    w.setTimer delay
    return l
  | .abandon => do
    w.stopTimer
    return l
  | .disposeSession =>
    return { l with entered := { l.entered with session := l.entered.session.dispose } }
  | .reply ticket r =>
    if ticket = startTicket then
      return { l with watch := (Watch.started r).seeing l.listener.state }
    else return l

/-- Tells the listener one thing. -/
def feed (w : World m) (l : Listening) (input : Listener.Input) : m Listening := do
  let (listener, effects) := l.listener.step (l.glance (← w.now)) input
  effects.foldlM (act w) { l with listener }

/-- What the listener's loop does without being told. -/
def spontaneous? (l : Listening) : Option Listener.Input :=
  match l.listener.supervisor with
  | none => none
  | some s =>
    match s.cancelled, s.loop with
    | true, .watching _ | true, .waiting _ | true, .ready _ | true, .attempting _ _ => some .noticed
    | false, .ready _ => some .proceed
    | _, _ => none

/-- What follows from what happens. -/
def happened (l : Listening) : Happening → Listening
  | .ended reason => l.tell (.disconnected l.opens reason)
  | .elapsed => l.tell .elapsed
  | .interrupted => { l with watch := l.watch.interrupted }

/-- One step of the command: tells the listener something, or disposes of it at the end,
or waits until something happens. -/
def step (w : World m) (l : Listening) : m (Option Listening) :=
  match l.pending, l.spontaneous?, l.watch with
  | input :: rest, _, _ => some <$> feed w { l with pending := rest } input
  | [], some input, _ => some <$> feed w l input
  | [], none, .leaving _ =>
    if l.listener.disposed then pure none
    else pure (some (l.tell (.call disposeTicket .dispose)))
  | [], none, _ => (fun h => some (l.happened h)) <$> w.next

/-- How the command ends. -/
def outcome (l : Listening) : Outcome :=
  match l.watch with
  | .leaving outcome => outcome
  | _ => .success []

end Listening

/-- Keeps listening. -/
def keepListening (w : World m) (c : ListenCommand) (e : Entered) : m Outcome :=
  Listening.outcome <$> w.iterate (Listening.step w) (Listening.begin c e)

/-! ## The whole program -/

/-- Runs a command. -/
def runCommand (w : World m) (c : Command) : Part m Outcome := do
  let e ← connect w c.connection
  match c with
  | .token t => getToken w t e
  | .listen l =>
    w.print listenHint
    if l.once then listenOnce w l e else ExceptT.lift (keepListening w l e)

/-- Runs the program with its arguments; yields the exit code. Nothing is logged, so how much is
to be logged, and in which form, makes no difference. -/
def run (w : World m) (environment : List (String × String)) (arguments : List String) :
    m Nat := do
  let outcome ← match Invocation.read environment arguments with
    | .error f => pure (.ofUsage f)
    | .ok invocation => do
      match ← (runCommand w invocation.command).run with
      | .ok outcome => pure outcome
      | .error outcome => pure outcome
  w.print outcome.lines
  return outcome.code

end Appliance.CommandLine
