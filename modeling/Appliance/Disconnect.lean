import Appliance.Text.Quoted

/-!
# Disconnects

Why a channel stopped delivering events. Of all reasons only one forbids a new
connection.

* `DisconnectReason`         : the causes
* `DisconnectReason.message` : the wording
-/

namespace Appliance

/-- Why a channel stopped delivering events. -/
inductive DisconnectReason where
  /-- It was closed from this side. -/
  | graceful
  /-- The connection failed. -/
  | transportError (detail : String)
  /-- The server closed it and accepts a new one. -/
  | serverInitiated (detail : Option String)
  /-- The server closed it and accepts no new one. -/
  | permanent (detail : String)
deriving DecidableEq, Repr

namespace DisconnectReason

/-- Whether no new connection may be tried. -/
def isPermanent : DisconnectReason → Bool
  | .permanent _ => true
  | _ => false

/-- What is reported for a channel that was dropped without giving a reason. -/
def dropped : DisconnectReason := .transportError "channel dropped without notifying"

/-- The detail, if there is one. -/
def detail? : DisconnectReason → Option String
  | .graceful => none
  | .transportError detail => some detail
  | .serverInitiated detail => detail
  | .permanent detail => some detail

/-- The wording. -/
def message : DisconnectReason → String
  | .graceful => "closed"
  | .transportError detail => "transport error: " ++ detail
  | .serverInitiated (some detail) => "closed by server: " ++ detail
  | .serverInitiated none => "closed by server"
  | .permanent detail => "permanently closed by server: " ++ detail

/-- The diagnostic text. -/
def debug : DisconnectReason → String
  | .graceful => "Graceful"
  | .transportError detail => "TransportError(" ++ Text.quoted detail ++ ")"
  | .serverInitiated (some detail) => "ServerInitiated(Some(" ++ Text.quoted detail ++ "))"
  | .serverInitiated none => "ServerInitiated(None)"
  | .permanent detail => "Permanent(" ++ Text.quoted detail ++ ")"

end DisconnectReason

/-- A notification that is given at most once: still owed, or settled. -/
inductive Notification where
  | owed
  | settled (reason : DisconnectReason)
deriving DecidableEq, Repr

namespace Notification

/-- Gives the reason, unless one was given before. -/
def settle (n : Notification) (reason : DisconnectReason) : Notification :=
  match n with
  | .owed => .settled reason
  | .settled r => .settled r

/-- The reason that was given. -/
def reason? : Notification → Option DisconnectReason
  | .owed => none
  | .settled r => some r

/-- The first reason stands. -/
theorem settle_settle (n : Notification) (r s : DisconnectReason) :
    (n.settle r).settle s = n.settle r := by
  cases n <;> rfl

end Notification

end Appliance
