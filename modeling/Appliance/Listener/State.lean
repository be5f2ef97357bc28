/-!
# Listener states

What a listener shows of itself to its users.
-/

namespace Appliance

/-- The state that a listener shows. -/
inductive ListenerState where
  /-- It was not started, or it was stopped. -/
  | disconnected
  /-- An attempt to open a channel is made. -/
  | connecting
  /-- A channel delivers events. -/
  | connected
  /-- The next attempt is waited for. -/
  | retryScheduled
  /-- It will never open a channel again. -/
  | permanentlyFailed
deriving DecidableEq, Repr

namespace ListenerState

/-- Whether the state is never left. -/
def isTerminal : ListenerState → Bool
  | .permanentlyFailed => true
  | _ => false

@[simp] theorem isTerminal_iff {s : ListenerState} :
    s.isTerminal = true ↔ s = .permanentlyFailed := by
  cases s <;> simp [isTerminal]

/-- The wording. -/
def text : ListenerState → String
  | .disconnected => "disconnected"
  | .connecting => "connecting"
  | .connected => "connected"
  | .retryScheduled => "retry scheduled"
  | .permanentlyFailed => "permanently failed"

/-- The diagnostic text. -/
def debug : ListenerState → String
  | .disconnected => "Disconnected"
  | .connecting => "Connecting"
  | .connected => "Connected"
  | .retryScheduled => "RetryScheduled"
  | .permanentlyFailed => "PermanentlyFailed"

end ListenerState

end Appliance
