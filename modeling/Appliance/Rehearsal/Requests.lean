import Appliance.Rehearsal.Counterpart

/-!
# Rehearsing requests

Single requests to a scripted token service, one after another: its list of
identity providers, the scope of a credential, and a token.

* `Requests`           : the service, and the time
* `Requests.perform`   : one operation
* `Requests.rehearse`  : a list of operations, with what is seen after each
-/

namespace Appliance.Rehearsal

open TokenService (Failure ProviderEntry)

/-- What the token service is used for. An operation without a credential that could
be made fails. -/
inductive RequestOp where
  | lookUp
  | resolve (c : Except InputFault Credential)
  | authenticate (c : Except InputFault Credential) (scope : Option Scope)

/-- What an operation answers. -/
inductive RequestAnswer where
  | providers (ps : List ProviderEntry)
  | scope (s : Scope)
  | token (t : Token)

/-- A token service, and the time. -/
structure Requests where
  now : Millis
  server : Server

namespace Requests

/-- Runs a dialogue with the service. -/
def run {α : Type} (w : Requests) (d : TokenService.Exchange α) (f : α → RequestAnswer) :
    Requests × Except Failure RequestAnswer :=
  let (now, server, r) := Server.counterpart.complete w.now w.server d
  (⟨now, server⟩, r.map f)

/-- Goes on with a credential. -/
def withCredential (w : Requests) (c : Except InputFault Credential)
    (f : Credential → Requests × Except Failure RequestAnswer) :
    Requests × Except Failure RequestAnswer :=
  match c with
  | .error fault => (w, .error (.fault (.input fault)))
  | .ok c => f c

/-- Performs an operation. -/
def perform (appliance : Address) (options : TokenService.Options) (w : Requests) :
    RequestOp → Requests × Except Failure RequestAnswer
  | .lookUp => w.run (TokenService.lookUpProviders appliance) .providers
  | .resolve c => w.withCredential c fun c =>
      w.run (TokenService.resolveScope appliance c) .scope
  | .authenticate c scope => w.withCredential c fun c =>
      w.run (TokenService.authenticate .bare appliance options c scope) .token

/-- The requests that the service has received. -/
def log (w : Requests) : List TokenService.Request := w.server.log

/-- Performs operations in order and returns what each leaves, and the requests that
it has sent. -/
def rehearse (appliance : Address) (options : TokenService.Options) : Requests →
    List RequestOp →
    List (Requests × Except Failure RequestAnswer × List TokenService.Request)
  | _, [] => []
  | w, op :: rest =>
    let (w', answer) := w.perform appliance options op
    (w', answer, w'.log.drop w.log.length) :: rehearse appliance options w' rest

end Requests

end Appliance.Rehearsal
