import Appliance.Dialogue
import Appliance.Http.Body
import Appliance.TokenService.Provider

/-!
# Counterparts

A rehearsal plays a client against the other side as a script has it. A
counterpart accepts what is asked and delivers an answer, at once or after some
milliseconds, and keeps a log. Two counterparts serve sessions: a token provider
that follows a script, and a token service that follows one.

* `Counterpart`     : accepts asks, delivers answers, keeps a log
* `Counterpart.drive`, `Counterpart.complete` : run a dialogue without or with waits
* `Script.provider` : the scripted token provider
* `Server.network`  : the scripted token service
-/

namespace Appliance.Rehearsal

/-- Instants of a rehearsal: milliseconds since its beginning. -/
abbrev Millis := Nat

/-- The instant on the clock. -/
def instant (now : Millis) : Instant := now * Duration.nanosPerMilli

/-- The other side of dialogues, with a state, and answers under way of type `P`. -/
structure Counterpart (σ Q P A : Type) where
  /-- Accepts an ask; says after how long the answer comes, unless it comes at once. -/
  accept : σ → Millis → Q → σ × Option Millis × P
  /-- Delivers an answer. -/
  deliver : σ → Millis → P → σ × A

/-- How far a dialogue goes without waiting. -/
inductive Progress (Q P A α : Type) where
  | finished (result : α)
  | waiting (due : Millis) (answer : P) (next : A → Dialogue Q A α)

/-- Runs a dialogue as far as it goes without waiting. -/
def Counterpart.drive {σ Q P A α : Type} (other : Counterpart σ Q P A) (now : Millis) :
    σ → Dialogue Q A α → σ × Progress Q P A α
  | s, .done a => (s, .finished a)
  | s, .ask request next =>
    match other.accept s now request with
    | (s', none, p) =>
      let (s'', a) := other.deliver s' now p
      other.drive now s'' (next a)
    | (s', some delay, p) => (s', .waiting (now + delay) p next)

/-- Runs a dialogue to its end, and lets the time pass that its answers take. -/
def Counterpart.complete {σ Q P A α : Type} (other : Counterpart σ Q P A) :
    Millis → σ → Dialogue Q A α → Millis × σ × α
  | now, s, .done a => (now, s, a)
  | now, s, .ask request next =>
    let (s', delay, p) := other.accept s now request
    let later := now + delay.getD 0
    let (s'', a) := other.deliver s' later p
    other.complete later s'' (next a)

/-! ## A scripted token provider -/

/-- One answer of a scripted provider. -/
structure ScriptEntry where
  delay : Option Millis
  fault : Option Fault
  /-- The id of a resolved scope, or the text of a token. -/
  text : Option String
  lifetime : Option Duration

/-- An answer that leaves everything open. -/
def ScriptEntry.open : ScriptEntry := ⟨none, none, none, none⟩

/-- What a provider is asked. -/
inductive Call where
  | resolve (c : Credential)
  | authenticate (c : Credential) (scope : Option Scope)

/-- A scripted provider. -/
structure Script where
  resolutions : List ScriptEntry
  tokens : List ScriptEntry
  /-- How many tokens were issued. -/
  issued : Nat
  log : List Call

namespace Script

/-- What a scripted provider delivers. -/
inductive Delivery where
  | scope (id : Option String)
  | token (text : String) (lifetime : Duration) (now : Millis)
  | fault (f : Fault)

/-- The lifetime of a token unless the script states one. -/
def lifetime : Duration := Duration.ofSeconds 600

/-- Takes the next answer for a call. An answer after no time comes at once. -/
def accept (s : Script) (_now : Millis) (call : Call) : Script × Option Millis × Call × ScriptEntry :=
  let logged := { s with log := s.log ++ [call] }
  let wait (e : ScriptEntry) : Option Millis := e.delay.filter (0 < ·)
  match call with
  | .resolve _ =>
    let e := s.resolutions.headD .open
    ({ logged with resolutions := s.resolutions.tail }, wait e, call, e)
  | .authenticate _ _ =>
    let e := s.tokens.headD .open
    ({ logged with tokens := s.tokens.tail }, wait e, call, e)

/-- Delivers an answer. Tokens without a text are numbered. -/
def deliver (s : Script) (now : Millis) (p : Call × ScriptEntry) : Script × Delivery :=
  let (call, e) := p
  match e.fault, call with
  | some f, _ => (s, .fault f)
  | none, .resolve _ => (s, .scope e.text)
  | none, .authenticate _ _ =>
    let n := s.issued + 1
    ({ s with issued := n },
      .token (e.text.getD ("token-" ++ toString n)) (e.lifetime.getD lifetime) now)

/-- The scripted provider as a counterpart. -/
def counterpart : Counterpart Script Call (Call × ScriptEntry) Delivery where
  accept := accept
  deliver := deliver

/-- The provider that asks a scripted one. -/
def provider : TokenProvider Call Delivery where
  resolve c := .ask (.resolve c) fun
    | .scope id => .done (.ok ((id.map Scope.mk).getD c.defaultScope))
    | .fault f => .done (.error (.fault f))
    | .token .. => .done (.error .beyondClock)
  authenticate c scope := .ask (.authenticate c scope) fun
    | .token text lifetime now =>
      match Token.issue? (instant now) text lifetime with
      | some t => .done (.ok t)
      | none => .done (.error .beyondClock)
    | .fault f => .done (.error (.fault f))
    | .scope _ => .done (.error .beyondClock)

end Script

/-! ## A scripted token service -/

/-- How a scripted server ends an answer. -/
inductive Delivered where
  | whole
  /-- The connection ends before the announced length. -/
  | cut
  /-- The connection is closed without an answer. -/
  | dropped
  /-- Nothing is ever answered. -/
  | silent
deriving DecidableEq, Repr

/-- One answer of a scripted server. -/
structure ServerEntry where
  status : Nat
  body : Octets
  delay : Option Millis
  delivered : Delivered

/-- The answer of a server whose script is at its end. -/
def ServerEntry.exhausted : ServerEntry := ⟨500, [], none, .whole⟩

/-- A server, and how it is reached. -/
structure Server where
  entries : List ServerEntry
  log : List TokenService.Request
  /-- The port that it listens on. -/
  port : Nat
  /-- The time in which clients want an answer. -/
  timeout : Duration

namespace Server

/-- Whether a server of this machine listens at a URL. -/
def listensAt (port : Nat) (w : Url.Web) : Bool :=
  ["localhost", "127.0.0.1"].contains w.host.text &&
    w.port.getD (if w.secure then 443 else 80) == port

/-- Whether a URL leads to the server. Encrypted connections to it fail. -/
def isReachedBy (s : Server) (url : String) : Bool :=
  match Url.read url.toList with
  | .ok (.web w) => !w.secure && listensAt s.port w
  | _ => false

/-- What the client makes of an answer. -/
def outcome (e : ServerEntry) : Except TransportFault TokenService.Response :=
  match e.delivered with
  | .whole => .ok ⟨e.status, if Http.hasBody e.status then e.body else []⟩
  | .cut =>
    if Http.hasBody e.status then .error (.http "connection closed before message completed")
    else .ok ⟨e.status, []⟩
  | _ => .error (.http "connection closed before message completed")

/-- Answers under way. -/
abbrev Pending := Except TransportFault TokenService.Response

/-- The fault of a request that is not answered in time. -/
def timedOut (s : Server) : Pending := .error (.timeout s.timeout.millis)

/-- Takes a request. -/
def accept (s : Server) (_now : Millis) (request : TokenService.Request) :
    Server × Option Millis × Pending :=
  let limit := s.timeout.millisUp
  if limit = 0 then (s, none, s.timedOut)
  else if s.isReachedBy request.url then
    let e := s.entries.headD .exhausted
    let s' := { s with entries := s.entries.tail, log := s.log ++ [request] }
    if e.delivered = .silent then (s', some limit, s.timedOut)
    else match e.delay with
      | none => (s', none, outcome e)
      | some d => if limit ≤ d then (s', some limit, s.timedOut) else (s', some d, outcome e)
  else (s, none, .error (.connection "connection refused"))

/-- Delivers an answer. -/
def deliver (s : Server) (now : Millis) (p : Pending) : Server × TokenService.Reply :=
  (s, ⟨instant now, p⟩)

/-- The scripted server as a counterpart. -/
def counterpart : Counterpart Server TokenService.Request Pending TokenService.Reply where
  accept := accept
  deliver := deliver

end Server

end Appliance.Rehearsal
