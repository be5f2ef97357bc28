import Appliance.Duration
import Appliance.Secret

/-!
# Access tokens

A token is a text that opens the appliance's services until it expires. Expiry
is an instant of a clock that only moves forward; instants are nanoseconds, and
those at or beyond the horizon cannot be told.

* `Clock`            : instants
* `Token.issue?`     : a token that lives for a given time from now
* `Token.remaining`  : the time left
-/

namespace Appliance

/-- An instant: the nanoseconds since an origin, which may be any moment but is the same one
throughout. -/
abbrev Instant := Nat

/-- The first instant that cannot be told. The system's clock tells the instants of its first
`2 ^ 63` seconds, so this bound is exact if the origin is one second after that of the system;
from a later origin the last instants before the horizon cannot be told either. -/
def Instant.horizon : Instant := 0x7fffffffffffffff * Duration.nanosPerSecond

/-- A text that opens the appliance's services, and when it ceases to. -/
structure Token where
  text : String
  expiry : Instant
deriving DecidableEq

namespace Token

/-- A token that lives for a given time from now. There is none if its expiry
cannot be told. -/
def issue? (now : Instant) (text : String) (lifetime : Duration) : Option Token :=
  let expiry := now + lifetime.nanos
  if expiry < Instant.horizon then some ⟨text, expiry⟩ else none

/-- The nanoseconds left. -/
def remaining (t : Token) (now : Instant) : Nat := t.expiry - now

/-- The whole seconds left. -/
def secondsLeft (t : Token) (now : Instant) : Nat := t.remaining now / Duration.nanosPerSecond

/-- A token with less than a second left counts as expired. -/
def isExpired (t : Token) (now : Instant) : Bool := t.secondsLeft now == 0

/-- The diagnostic text, without the text of the token. -/
def debug (t : Token) (now : Instant) : String :=
  "AccessToken \x7b value: \"" ++ Secret.mask ++ "\", remaining_secs: " ++
    toString (t.secondsLeft now) ++ " \x7d"

/-- The time left never grows. -/
theorem remaining_antitone (t : Token) {a b : Instant} (h : a ≤ b) :
    t.remaining b ≤ t.remaining a := Nat.sub_le_sub_left h t.expiry

end Token

end Appliance
