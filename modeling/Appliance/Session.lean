import Appliance.TokenService.Provider

/-!
# Sessions

A session holds a credential, the scope it was found to belong to, and the token
it was last given. A refresh takes several steps, between which other
operations may come: it looks at the session, lets the provider resolve the
scope unless that is known, lets it issue a token, and stores the token unless
the session was disposed of meanwhile.

* `Session`             : the state
* `Refresh`             : how far a refresh has come
* `Session.snapshot`, `Session.takeScope`, `Session.takeToken` : its steps
* `Session.refresh`     : a whole refresh, if nothing comes between its steps
* `Session.copy`, `Session.dispose` : the other operations
* `Session.mark`, `Session.wipe`    : the two steps of a disposal
-/

namespace Appliance

/-- The state of a session. -/
structure Session where
  credential : Option Credential
  scope : Option Scope
  token : Option Token
  disposed : Bool
deriving DecidableEq

/-- How far a refresh has come. -/
inductive Refresh where
  /-- The session was found in use. -/
  | admitted
  /-- The provider resolves the scope. -/
  | resolving (c : Credential)
  /-- The scope is known, and the provider issues a token. -/
  | issuing (c : Credential) (s : Scope)
  | finished (result : Except TokenService.Failure Unit)

namespace Session

/-- A session that has no token yet. -/
def ofCredential (c : Credential) : Session := ⟨some c, none, none, false⟩

/-- The fault of a session that was disposed of. -/
def disposedFault : Fault := .auth .sessionDisposed

/-- A refresh that found the session disposed of. -/
def refusedRefresh : Refresh := .finished (.error (.fault disposedFault))

/-! ## The steps of a refresh -/

/-- Begins a refresh. -/
def enter (s : Session) : Refresh := if s.disposed then refusedRefresh else .admitted

/-- Looks at the credential and the scope. -/
def snapshot (s : Session) : Refresh :=
  match s.credential, s.scope with
  | none, _ => refusedRefresh
  | some c, none => .resolving c
  | some c, some scope => .issuing c scope

/-- Takes the scope that the provider resolved. -/
def takeScope (s : Session) (c : Credential) (answer : Except TokenService.Failure Scope) :
    Session × Refresh :=
  match answer with
  | .error f => (s, .finished (.error f))
  | .ok scope => ({ s with scope := some scope }, .issuing c scope)

/-- Takes the token that the provider issued, unless the session was disposed of. -/
def takeToken (s : Session) (answer : Except TokenService.Failure Token) : Session × Refresh :=
  match answer with
  | .error f => (s, .finished (.error f))
  | .ok token =>
    if s.disposed then (s, refusedRefresh)
    else ({ s with token := some token }, .finished (.ok ()))

/-- A refresh that nothing comes between. -/
def refresh {Q A : Type} (p : TokenProvider Q A) (s : Session) :
    Dialogue Q A (Session × Except TokenService.Failure Unit) :=
  let issue (s : Session) (c : Credential) (scope : Scope) :
      Dialogue Q A (Session × Except TokenService.Failure Unit) :=
    (p.authenticate c (some scope)).map fun answer =>
      match s.takeToken answer with
      | (s, .finished r) => (s, r)
      | (s, _) => (s, .error (.fault disposedFault))
  match s.enter, s.snapshot with
  | .finished r, _ => .done (s, r)
  | _, .issuing c scope => issue s c scope
  | _, .resolving c => (p.resolve c).andThen fun answer =>
    match s.takeScope c answer with
    | (s, .issuing c scope) => issue s c scope
    | (s, .finished r) => .done (s, r)
    | (s, _) => .done (s, .error (.fault disposedFault))
  | _, _ => .done (s, .error (.fault disposedFault))

/-! ## Other operations -/

/-- The token, unless the session was disposed of. -/
def accessToken (s : Session) : Option Token := if s.disposed then none else s.token

/-- The whole seconds that the token has left. -/
def secondsLeft (s : Session) (now : Instant) : Nat :=
  match s.accessToken with
  | some t => t.secondsLeft now
  | none => 0

/-- A session of its own with the same credential, scope and token. -/
def copy (s : Session) : Except Fault Session :=
  if s.disposed then .error disposedFault
  else match s.credential with
    | none => .error disposedFault
    | some c => .ok ⟨some c, s.scope, s.token, false⟩

/-- Marks the session as disposed of. -/
def mark (s : Session) : Session := { s with disposed := true }

/-- Forgets credential, scope and token. -/
def wipe (s : Session) : Session := { s with credential := none, scope := none, token := none }

/-- Forgets credential, scope and token, for good. -/
def dispose (s : Session) : Session := if s.disposed then s else s.mark.wipe

/-- The diagnostic text. -/
def debug (s : Session) (appliance : Address) : String :=
  Credential.recordText "AuthenticationSession"
    [("appliance", appliance.debug),
      ("credential", Credential.optionText (s.credential.map Credential.kind)),
      ("scope", match s.scope with
        | some scope => "Some(ProviderScope(" ++ Text.quoted scope.text ++ "))"
        | none => "None"),
      ("token", Credential.optionText (s.token.map fun _ => Secret.mask)),
      ("disposed", TokenService.Options.boolText s.disposed)]

/-- A disposed session has no token. -/
theorem accessToken_dispose (s : Session) : s.dispose.accessToken = none := by
  simp only [dispose, mark, wipe, accessToken]
  split <;> simp_all

/-- Disposing again changes nothing. -/
theorem dispose_dispose (s : Session) : s.dispose.dispose = s.dispose := by
  simp only [dispose, mark, wipe]
  split <;> simp_all

end Session

end Appliance
