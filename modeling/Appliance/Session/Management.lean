import Appliance.Session

/-!
# Management sessions

The session of the management service, which needs no token: it has none, gets
none and cannot be copied.
-/

namespace Appliance

/-- A session of the management service. -/
structure ManagementSession where
  disposed : Bool
deriving DecidableEq, Repr

namespace ManagementSession

/-- A session in use. -/
def fresh : ManagementSession := ⟨false⟩

/-- Refreshes, which is never possible. -/
def refresh (s : ManagementSession) : Except Fault Unit :=
  if s.disposed then .error Session.disposedFault
  else .error (.auth (.unsupported "refresh_access_token"))

/-- Copies, which is never possible. -/
def copy (_ : ManagementSession) : Except Fault ManagementSession := .error (.auth .notCloneable)

/-- Ends the session. -/
def dispose (_ : ManagementSession) : ManagementSession := ⟨true⟩

/-- The diagnostic text. -/
def debug (s : ManagementSession) (appliance : Address) : String :=
  Credential.recordText "ManagementSession"
    [("appliance", appliance.debug), ("disposed", TokenService.Options.boolText s.disposed)]

end ManagementSession

end Appliance
