import Appliance.Address
import Appliance.Dialogue
import Appliance.Text.Utf8
import Appliance.Token
import Appliance.TokenService.Body
import Appliance.TokenService.Grant
import Appliance.TokenService.Options

/-!
# Exchanges with the token service

The two requests that the token service answers: a grant for a token, and the
list of identity providers. A status of success carries the answer, every other
status a refusal.

* `Request`, `Response`, `Reply` : what goes over the wire
* `accept`         : the body of a success, or the fault of a refusal
* `requestToken`   : exchanges a grant for a token
* `lookUpProviders` : asks for the identity providers
-/

namespace Appliance.TokenService

/-- A request. All are sent by the method POST. -/
structure Request where
  url : String
  contentType : String
  body : String
deriving DecidableEq

namespace Request

/-- What answers may be. -/
def acceptedType : String := "application/json"

/-- How this client names itself. -/
def agent : String := "safeguard-rsts/0.1.0"

end Request

/-- A final answer. -/
structure Response where
  status : Nat
  body : Octets

/-- What became of a request, and when. -/
structure Reply where
  time : Instant
  outcome : Except TransportFault Response

/-- Why an exchange brought nothing. -/
inductive Failure where
  | fault (f : Fault)
  /-- The expiry of the token cannot be told, and the program breaks off. -/
  | beyondClock
deriving DecidableEq

/-- Exchanges over the network. -/
abbrev Exchange (α : Type) : Type := Dialogue Request Reply (Except Failure α)

/-- Whether a status is one of success. -/
def isSuccess (status : Nat) : Bool := 200 ≤ status && status < 300

/-- The fault of a refusal. A body that says nothing readable leaves only the status. -/
def refusal (status : Nat) (body : String) : Fault :=
  let r := (RefusalBody.ofText? body).getD RefusalBody.silent
  .auth (.rejected status r.code r.wording)

/-- The body of a success, or the fault of a refusal. -/
def accept (r : Response) : Except Fault String :=
  let body := Text.Utf8.lossy r.body
  if isSuccess r.status then .ok body else .error (refusal r.status body)

/-- The body that a reply carries. -/
def bodyOf (r : Reply) : Except Fault String :=
  match r.outcome with
  | .error f => .error (.transport f)
  | .ok response => accept response

/-- A fault of an answer that cannot be used. -/
def malformed (detail : String) : Fault := .protocol (.malformedResponse detail)

/-- The text and the lifetime of the token that a body issues. -/
def issued (defaultLifetime : Duration) (body : String) : Except Fault (String × Duration) :=
  match IssuedBody.ofText? body with
  | none => .error (malformed "token response is not valid JSON: no token response")
  | some b =>
    match b.accessToken with
    | none => .error (malformed "token response has no access_token")
    | some token =>
      if token = "" then .error (malformed "token response has no access_token")
      else .ok (token, (b.expiresIn.map Duration.ofSeconds).getD defaultLifetime)

/-- The token that a reply issues. -/
def tokenOf (options : Options) (reply : Reply) : Except Failure Token :=
  match (bodyOf reply).bind (issued options.defaultLifetime) with
  | .error f => .error (.fault f)
  | .ok (text, lifetime) =>
    match Token.issue? reply.time text lifetime with
    | some token => .ok token
    | none => .error .beyondClock

/-- The identity providers that a reply lists. -/
def providersOf (reply : Reply) : Except Fault (List ProviderEntry) :=
  (bodyOf reply).bind fun body =>
    match ProviderEntry.listOfText? body with
    | some providers => .ok providers
    | none => .error (malformed "provider list is not valid JSON: no provider list")

/-- The request for a token. -/
def tokenRequest (appliance : Address) (grant : Grant) : Request :=
  ⟨appliance.tokenUrl, "application/json", grant.text⟩

/-- The request for the identity providers. -/
def lookupRequest (appliance : Address) : Request :=
  ⟨appliance.lookupUrl, "application/x-www-form-urlencoded", "RelayState="⟩

/-- Exchanges a grant for a token. -/
def requestToken (appliance : Address) (options : Options) (grant : Grant) : Exchange Token :=
  .ask (tokenRequest appliance grant) fun reply => .done (tokenOf options reply)

/-- Asks for the identity providers. -/
def lookUpProviders (appliance : Address) : Exchange (List ProviderEntry) :=
  .ask (lookupRequest appliance) fun reply => .done ((providersOf reply).mapError .fault)

end Appliance.TokenService
