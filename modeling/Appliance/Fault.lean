import Appliance.Json.Value

/-!
# Faults

Everything that can go wrong, by cause. A *transient* fault may pass by itself,
so a listener tries again after it; every other fault is fatal. A *refused
token* is transient and asks for a new token first.

* `Fault`                : the causes
* `Fault.message`        : the wording, which names the group and then the cause
* `Fault.isTransient`, `Fault.isFatal`, `Fault.isTokenRefused` : the classes
-/

namespace Appliance

/-- The network failed. -/
inductive TransportFault where
  | connection (detail : String)
  | tls (detail : String)
  | timeout (millis : Nat)
  | http (detail : String)
  | webSocket (detail : String)
deriving DecidableEq, Repr

/-- The appliance or the session refuses. -/
inductive AuthFault where
  /-- The token service answered with a failure. -/
  | rejected (status : Nat) (code : Option Int) (detail : Option String)
  /-- The access token was refused when it was presented. -/
  | tokenRefused (status : Nat)
  | unknownProvider (provider : String) (available : List String)
  | sessionDisposed
  | notCloneable
  | unsupported (operation : String)
  | certificate (detail : String)
deriving DecidableEq, Repr

/-- The other side does not keep to the protocol. -/
inductive ProtocolFault where
  | malformedResponse (detail : String)
  | handshake (detail : String)
deriving DecidableEq, Repr

/-- The caller's input cannot be used. -/
inductive InputFault where
  | address (value reason : String)
  | credential (reason : String)
  | other (detail : String)
deriving DecidableEq, Repr

/-- The listener is past use. -/
inductive ListenerFault where
  | disposed
  | permanentlyFailed
deriving DecidableEq, Repr

/-- Anything that can go wrong. -/
inductive Fault where
  | transport (f : TransportFault)
  | auth (f : AuthFault)
  | protocol (f : ProtocolFault)
  | input (f : InputFault)
  | listener (f : ListenerFault)
deriving DecidableEq, Repr

/-! ## Wording -/

/-- The wording of a network failure. -/
def TransportFault.message : TransportFault → String
  | .connection detail => "connection failed: " ++ detail
  | .tls detail => "TLS error: " ++ detail
  | .timeout millis => "request timed out after " ++ toString millis ++ "ms"
  | .http detail => "HTTP error: " ++ detail
  | .webSocket detail => "websocket error: " ++ detail

/-- The wording of an integer. -/
def integerText (n : Int) : String := String.ofList (Json.Number.intText n)

/-- The wording of a refusal. -/
def AuthFault.message : AuthFault → String
  | .rejected status code detail =>
    "rejected with HTTP " ++ toString status ++
      (match code with
        | some c => " [" ++ integerText c ++ "]"
        | none => "") ++
      (match detail with
        | some d => ": " ++ d
        | none => "")
  | .tokenRefused status => "access token not accepted (HTTP " ++ toString status ++ ")"
  | .unknownProvider provider available =>
    "unable to find scope matching '" ++ provider ++ "' in [" ++
      String.intercalate ", " available ++ "]"
  | .sessionDisposed => "session has been disposed"
  | .notCloneable => "anonymous and management sessions are not cloneable"
  | .unsupported operation => "unsupported operation for this session: " ++ operation
  | .certificate detail => "client certificate unavailable: " ++ detail

/-- The wording of a protocol failure. -/
def ProtocolFault.message : ProtocolFault → String
  | .malformedResponse detail => "malformed response: " ++ detail
  | .handshake detail => "handshake failed: " ++ detail

/-- The wording of an input that cannot be used. -/
def InputFault.message : InputFault → String
  | .address value reason => "invalid appliance address '" ++ value ++ "': " ++ reason
  | .credential reason => "invalid credential: " ++ reason
  | .other detail => "invalid input: " ++ detail

/-- The wording of a use after the end. -/
def ListenerFault.message : ListenerFault → String
  | .disposed => "event listener has been disposed"
  | .permanentlyFailed => "event listener has permanently disconnected"

namespace Fault

/-- The cause alone. -/
def cause : Fault → String
  | .transport f => f.message
  | .auth f => f.message
  | .protocol f => f.message
  | .input f => f.message
  | .listener f => f.message

/-- The group and the cause. -/
def message : Fault → String
  | .transport f => "network error: " ++ f.message
  | .auth f => "authentication error: " ++ f.message
  | .protocol f => "protocol error: " ++ f.message
  | .input f => "invalid input: " ++ f.message
  | .listener f => "listener error: " ++ f.message

/-! ## Classes -/

/-- Whether a status of the token service may change by itself. -/
def statusPasses (status : Nat) : Bool := status == 408 || status == 429 || 500 ≤ status

/-- Whether the fault may pass by itself. -/
def isTransient : Fault → Bool
  | .transport _ => true
  | .protocol _ => true
  | .auth (.rejected status _ _) => statusPasses status
  | .auth (.tokenRefused _) => true
  | _ => false

/-- Whether trying again is of no use. -/
def isFatal (f : Fault) : Bool := !f.isTransient

/-- Whether a new token is needed before the next attempt. -/
def isTokenRefused : Fault → Bool
  | .auth (.tokenRefused _) => true
  | _ => false

/-- A refused token is no reason to give up. -/
theorem isTransient_of_isTokenRefused {f : Fault} (h : f.isTokenRefused = true) :
    f.isTransient = true := by
  cases f with
  | auth g => cases g <;> simp_all [isTokenRefused, isTransient]
  | _ => simp_all [isTokenRefused]

end Fault

end Appliance
