import Appliance.Hub.Opening
import Appliance.Listener
import Appliance.Session.Sharing

/-!
# Clients

A client is a program that uses credentials, sessions and listeners: it makes them, calls
them, passes on to them what the token service and the hub answer, and looks at whatever they
show. What is seen of a client is all that its calls, its looks and its connections give away.

* `Client`        : credentials, sessions and listeners, each by its place
* `Client.Op`     : one thing that the client does or that happens to it
* `Client.Look`   : one thing that the client looks at
* `Client.Sight`  : what is seen
* `Client.step`   : one operation
* `Client.run`    : many operations
-/

namespace Appliance

open TokenService (Exchange Failure Platform Reply Request)

/-- Whether a step of a session is an answer of the token provider. -/
def SharedSession.Event.isAnswer : SharedSession.Event → Bool
  | .refresh (.resolved _ _) | .refresh (.issued _ _) => true
  | _ => false

/-- Whether an input of a listener is an answer of its session or of its transport. -/
def Listener.Input.isAnswer : Listener.Input → Bool
  | .refreshed _ | .opened _ => true
  | _ => false

namespace Client

/-- A session, and how its provider is asked. -/
structure Account where
  appliance : Address
  options : TokenService.Options
  shared : SharedSession

/-- A listener with one of the client's sessions. -/
structure Watch where
  /-- The place of its session. -/
  session : Nat
  options : Listener.Options
  listener : Listener
  /-- The channel that is being opened. -/
  opening : Option Hub.Opening
  /-- How many channels were opened. -/
  opened : Nat

end Client

open Client in
/-- A program that uses credentials, sessions and listeners. -/
structure Client where
  credentials : List Credential
  accounts : List Account
  watches : List Watch

namespace Client

/-- A client that has nothing yet. -/
def fresh : Client := ⟨[], [], []⟩

/-- One thing that the client looks at. -/
inductive Look where
  /-- The diagnostic text of a credential. -/
  | credential (i : Nat)
  /-- The diagnostic texts of the secrets in a credential. -/
  | secrets (i : Nat)
  /-- The diagnostic text of the certificate that a credential presents. -/
  | certificate (i : Nat) (store : Option Certificate.Store)
  /-- The diagnostic text of what a credential asks a token with. -/
  | grant (i : Nat) (appliance : Address) (options : TokenService.Options) (scope : Scope)
  /-- The octets of the secrets in a credential. -/
  | exposeSecrets (i : Nat)
  /-- The diagnostic text of a session. -/
  | session (s : Nat)
  /-- The whole seconds that the token of a session has left. -/
  | secondsLeft (s : Nat) (now : Instant)
  /-- How a refresh of a session has ended. -/
  | refresh (s k : Nat)
  /-- The diagnostic text of the token that a call has read. -/
  | token (s k : Nat) (now : Instant)
  /-- The text of the token that a call has read. -/
  | exposeToken (s k : Nat)
  /-- The diagnostic text of a listener, with the handlers that it is registered with. -/
  | listener (l : Nat) (subscriptions : Subscriptions Handler)

/-- One thing that the client does or that happens to it. -/
inductive Op where
  /-- Makes a credential. -/
  | thumbprint (s : String)
  | certificate (data password : Secret)
  | certificateFile (path : String) (content : Except Files.ReadFault Octets) (password : Secret)
  | password (username : String) (password : Secret)
  /-- Names the provider of a credential. -/
  | withProvider (i : Nat) (name : String)
  /-- Makes a session with a credential. -/
  | enter (i : Nat) (appliance : Address) (options : TokenService.Options)
  /-- A call of a session takes a step. -/
  | call (s : Nat) (e : SharedSession.Event)
  /-- The token service has answered what a refresh asks, as far as it has come. -/
  | answered (s k : Nat) (replies : List Reply)
  /-- Takes over the copy of a session that a call has made. -/
  | adopt (s k : Nat)
  /-- Makes a listener with a session. -/
  | listen (s : Nat) (options : Listener.Options) (ownsSession : Bool)
  /-- Something happens to a listener that neither its session nor its transport answers. -/
  | tell (l : Nat) (now : Instant) (input : Listener.Input)
  /-- A refresh of its session has ended. -/
  | refreshed (l : Nat) (now : Instant) (k : Nat)
  /-- The hub says something while a channel is being opened. -/
  | greeted (l : Nat) (input : Hub.Opening.Input)
  /-- The channel is open, or has failed to open. -/
  | opened (l : Nat) (now : Instant)
  | look (x : Look)

/-- What is seen. -/
inductive Sight where
  /-- A diagnostic text. -/
  | text (s : String)
  | seconds (n : Nat)
  /-- A call has ended. -/
  | ended (result : Except Failure Unit)
  /-- A listener does something: among others, it shows a state or ends a call. -/
  | did (l : Nat) (e : Listener.Effect)
  /-- A session sends a request. -/
  | sent (s : Nat) (r : Request)
  /-- A listener presents its token. -/
  | presented (l : Nat) (header : Except Fault String)
  /-- The octets of a secret. -/
  | exposed (octets : Octets)

/-- A client with what is seen of it. -/
abbrev Move := Client × List Sight

/-! ## Credentials -/

/-- A credential that is made joins the others. -/
def made (c : Client) : Except InputFault Credential → Move
  | .ok credential => ({ c with credentials := c.credentials ++ [credential] }, [.ended (.ok ())])
  | .error f => (c, [.ended (.error (.fault (.input f)))])

/-- The secrets in a credential. -/
def secretsOf (c : Credential) : List Secret :=
  match c.identity with
  | .thumbprint _ => []
  | .certificate data password => [data, password]
  | .password _ password => [password]

/-! ## Sessions -/

/-- The step of a call of a session. -/
def Account.call (a : Account) (e : SharedSession.Event) : Account :=
  { a with shared := (a.shared.step e).1 }

/-- What a session shows a listener. -/
def Account.glance (a : Account) (now : Instant) : Listener.Glance :=
  ⟨a.shared.session.secondsLeft now, a.shared.session.accessToken⟩

/-- What a refresh asks, and the step that it takes once that is answered. -/
def Account.converse {α : Type} (a : Account) (d : Exchange α) (replies : List Reply)
    (step : Except Failure α → Overlap.Event) : Account × List Request :=
  (match d.result? replies with
    | some answer => a.call (.refresh (step answer))
    | none => a,
  d.asks replies)

/-- The token service has answered what a refresh asks. -/
def Account.answered (platform : Platform) (a : Account) (k : Nat) (replies : List Reply) :
    Account × List Request :=
  let provider := TokenService.provider platform a.appliance a.options
  match a.shared.overlap.flights[k]? with
  | some (.awaiting (.resolving c)) => a.converse (provider.resolve c) replies (.resolved k)
  | some (.awaiting (.issuing c scope)) =>
    a.converse (provider.authenticate c (some scope)) replies (.issued k)
  | _ => (a, [])

/-- How a refresh has ended. -/
def Account.ended? (a : Account) (k : Nat) : Option (Except Failure Unit) :=
  match a.shared.overlap.flights[k]? with
  | some (.going (.finished result)) => some result
  | _ => none

/-- The token that a call has read. -/
def Account.read? (a : Account) (k : Nat) : Option Token :=
  match a.shared.readings[k]? with
  | some (.over token) => token
  | _ => none

/-- The copy of a session joins the sessions. -/
def adopted (c : Client) (a : Account) : Option (Visit (Except Fault Session)) → Move
  | some (.over (.ok s)) =>
    ({ c with accounts := c.accounts ++ [{ a with shared := .ofSession s }] }, [.ended (.ok ())])
  | some (.over (.error f)) => (c, [.ended (.error (.fault f))])
  | _ => (c, [])

/-! ## Listeners -/

/-- Performs an effect of a listener. -/
def act (l s : Nat) (c : Client) (e : Listener.Effect) : Move :=
  match e with
  | .refresh =>
    ({ c with accounts := c.accounts.modify s (·.call (.refresh .begin)) }, [.did l e])
  | .disposeSession => ({ c with accounts := c.accounts.modify s (·.call .dispose) }, [.did l e])
  | .openChannel token =>
    ({ c with watches := c.watches.modify l ({ · with opening := some (.begin token.text) }) },
      [.did l e, .presented l (Hub.bearer token.text)])
  | _ => (c, [.did l e])

/-- Performs effects of a listener in order. -/
def acts (l s : Nat) (c : Client) : List Listener.Effect → Move
  | [] => (c, [])
  | e :: rest =>
    let (c, seen) := act l s c e
    let (c, more) := acts l s c rest
    (c, seen ++ more)

/-- A listener takes an input. -/
def tell (c : Client) (l : Nat) (now : Instant) (input : Listener.Input) : Move :=
  match c.watches[l]? with
  | none => (c, [])
  | some w =>
    match c.accounts[w.session]? with
    | none => (c, [])
    | some a =>
      let (listener, effects) := w.listener.step (a.glance now) input
      acts l w.session { c with watches := c.watches.set l { w with listener } } effects

/-- What the end of an opening means for the listener. -/
def Watch.answer? (w : Watch) : Option Listener.Input :=
  match w.opening with
  | some (.opened _) => some (.opened (.ok (w.opened + 1)))
  | some (.failed f) => some (.opened (.error f))
  | _ => none

/-- An opening that has ended is told the listener. -/
def openingEnded (c : Client) (l : Nat) (now : Instant) : Move :=
  match c.watches[l]? with
  | none => (c, [])
  | some w =>
    match w.answer? with
    | none => (c, [])
    | some input =>
      tell { c with watches := c.watches.set l { w with opening := none, opened := w.opened + 1 } }
        l now input

/-- A refresh that has ended is told the listener. -/
def refreshEnded (c : Client) (l : Nat) (now : Instant) (k : Nat) : Move :=
  match (c.watches[l]?.bind fun w => c.accounts[w.session]?).bind fun a => a.ended? k with
  | some result => c.tell l now (.refreshed result)
  | none => (c, [])

/-- The hub says something while a channel is being opened. -/
def Watch.greeted (w : Watch) (input : Hub.Opening.Input) : Watch :=
  { w with opening := w.opening.map fun o => o.step w.options input }

/-! ## Looks -/

/-- The text that is seen of something, if that is there. -/
def texts {α : Type} (x : Option α) (f : α → String) : List Sight :=
  (x.map fun a => .text (f a)).toList

/-- What is seen of a certificate that a credential may present. -/
def presentedText : Except AuthFault (Option ClientCertificate) → List Sight
  | .ok certificate => texts certificate ClientCertificate.debug
  | .error f => [.ended (.error (.fault (.auth f)))]

/-- What is seen of a grant. -/
def grantText : Except Fault TokenService.Grant → List Sight
  | .ok g => [.text g.debug]
  | .error f => [.ended (.error (.fault f))]

/-- What the client sees when it looks at something. -/
def see (platform : Platform) (c : Client) : Look → List Sight
  | .credential i => texts c.credentials[i]? Credential.debug
  | .secrets i => (c.credentials[i]?.toList.flatMap secretsOf).map fun s => .text s.debug
  | .certificate i store =>
    c.credentials[i]?.toList.flatMap fun x => presentedText (Certificate.presented store x)
  | .grant i appliance options scope =>
    c.credentials[i]?.toList.flatMap fun x =>
      grantText (TokenService.grantOf platform appliance options x scope)
  | .exposeSecrets i => (c.credentials[i]?.toList.flatMap secretsOf).map fun s => .exposed s.octets
  | .session s => texts c.accounts[s]? fun a => a.shared.session.debug a.appliance
  | .secondsLeft s now =>
    c.accounts[s]?.toList.map fun a => .seconds (a.shared.session.secondsLeft now)
  | .refresh s k => ((c.accounts[s]?.bind (·.ended? k)).map .ended).toList
  | .token s k now => texts (c.accounts[s]?.bind (·.read? k)) fun t => t.debug now
  | .exposeToken s k =>
    ((c.accounts[s]?.bind (·.read? k)).map fun t => .exposed (Octets.ofText t.text)).toList
  | .listener l subscriptions =>
    texts (c.watches[l]?.bind fun w => c.accounts[w.session]?.map fun a => (w, a)) fun (w, a) =>
      w.listener.debug a.appliance subscriptions

/-! ## Operations -/

/-- One operation, with what is seen of it. -/
def step (platform : Platform) (c : Client) : Op → Move
  | .thumbprint s => c.made (Credential.thumbprint s)
  | .certificate data password => c.made (Credential.certificate data password)
  | .certificateFile path content password =>
    c.made (Credential.certificateFile path content password)
  | .password username password => c.made (Credential.password username password)
  | .withProvider i name =>
    ({ c with credentials := c.credentials.modify i (·.withProvider name) }, [])
  | .enter i appliance options =>
    ({ c with
      accounts := c.accounts ++ c.credentials[i]?.toList.map fun x =>
        ⟨appliance, options, .ofSession (.ofCredential x)⟩ }, [])
  | .call s e =>
    if e.isAnswer then (c, []) else ({ c with accounts := c.accounts.modify s (·.call e) }, [])
  | .answered s k replies =>
    match c.accounts[s]? with
    | none => (c, [])
    | some a =>
      let (a, requests) := a.answered platform k replies
      ({ c with accounts := c.accounts.set s a }, requests.map (.sent s))
  | .adopt s k =>
    match c.accounts[s]? with
    | none => (c, [])
    | some a => c.adopted a a.shared.copyings[k]?
  | .listen s options ownsSession =>
    ({ c with
      watches := c.watches ++
        [⟨s, options, Listener.fresh options.backoff ownsSession, none, 0⟩] }, [])
  | .tell l now input => if input.isAnswer then (c, []) else c.tell l now input
  | .refreshed l now k => c.refreshEnded l now k
  | .greeted l input => ({ c with watches := c.watches.modify l (·.greeted input) }, [])
  | .opened l now => c.openingEnded l now
  | .look x => (c, see platform c x)

/-- Many operations, with what is seen of them. -/
def run (platform : Platform) (c : Client) : List Op → Move
  | [] => (c, [])
  | op :: rest =>
    let (c, seen) := c.step platform op
    let (c, more) := c.run platform rest
    (c, seen ++ more)

end Client

end Appliance
