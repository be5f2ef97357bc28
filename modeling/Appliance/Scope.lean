/-!
# Scopes

A token is issued for a scope, which names the identity provider that vouches
for the credential. Two providers are built in: one for certificates and one for
local accounts.
-/

namespace Appliance

/-- The scope of a token: that of the identity provider with the given id. -/
structure Scope where
  providerId : String
deriving DecidableEq, Repr

namespace Scope

/-- Begins the text of every scope. -/
def stem : String := "rsts:sts:primaryproviderid:"

/-- The text of a scope. -/
def text (s : Scope) : String := stem ++ s.providerId

/-- The id of the built-in provider for certificates. -/
def certificateId : String := "certificate"

/-- The id of the built-in provider for local accounts. -/
def localId : String := "local"

/-- The scope of certificates. -/
def certificate : Scope := ⟨certificateId⟩

/-- The scope of local accounts. -/
def localAccounts : Scope := ⟨localId⟩

/-- Scopes of different providers have different texts. -/
theorem text_injective {a b : Scope} (h : a.text = b.text) : a = b := by
  have h' : stem.toList ++ a.providerId.toList = stem.toList ++ b.providerId.toList := by
    simpa [text] using congrArg String.toList h
  cases a; cases b
  exact congrArg mk (String.toList_inj.1 (List.append_cancel_left h'))

end Scope

end Appliance
