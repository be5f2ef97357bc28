/-!
# Secrets

Passwords and certificate data are octets that no diagnostic may show. A secret
is read only through `octets` and `text?`; its diagnostic text is the same for
all of them.

* `Octets`        : a sequence of octets, and its reading as UTF-8
* `Secret`        : octets that are not shown
* `Secret.debug`  : the one diagnostic text of secrets
-/

namespace Appliance

/-- A sequence of octets. -/
abbrev Octets := List UInt8

namespace Octets

/-- The UTF-8 form of a text. -/
def ofText (s : String) : Octets := s.toByteArray.data.toList

/-- The octets as one array. -/
def bytes (octets : Octets) : ByteArray := ⟨octets.toArray⟩

/-- The text whose UTF-8 form the octets are. -/
def text? (octets : Octets) : Option String := String.fromUTF8? octets.bytes

/-- The octets of a text read back as that text. -/
theorem text?_ofText (s : String) : text? (ofText s) = some s := by
  cases s with
  | ofByteArray b h => exact dif_pos h

end Octets

/-- Octets that no diagnostic shows. -/
structure Secret where
  octets : Octets
deriving DecidableEq

namespace Secret

/-- Stands for a secret in diagnostics. -/
def mask : String := "[REDACTED]"

/-- The secret of a text. -/
def ofText (s : String) : Secret := ⟨Octets.ofText s⟩

/-- A secret without content. -/
def empty : Secret := ⟨[]⟩

/-- The text of a secret, if it is one. -/
def text? (s : Secret) : Option String := s.octets.text?

/-- The number of octets. -/
def size (s : Secret) : Nat := s.octets.length

/-- Whether the secret is without content. -/
def isEmpty (s : Secret) : Bool := s.octets.isEmpty

/-- Forgets the content. -/
def wipe (_ : Secret) : Secret := empty

/-- The diagnostic text. -/
def debug (_ : Secret) : String := "SecretMaterial(\"" ++ mask ++ "\")"

/-- Diagnostics do not tell secrets apart. -/
theorem debug_eq (a b : Secret) : a.debug = b.debug := rfl

end Secret

end Appliance
