import Appliance.Secret
import Appliance.Text.Ranges

/-!
# Percent escapes

Characters that would be misread are written as the octets of their UTF-8 form,
each as a percent sign and two upper-case hexadecimal digits. Characters beyond
ASCII are always written so.

* `escape`    : escapes the characters of a set
* `octets`    : the octets that a text with escapes stands for
* `userSet`, `pathSet` : what is escaped in user information and in paths
-/

namespace Appliance.Url.Percent

open Appliance.Text

/-- The escape of an octet. -/
def escapeOctet (b : UInt8) : List Char :=
  ['%', upperHexDigit (b.toNat / 16), upperHexDigit (b.toNat % 16)]

/-- A set of ASCII characters to escape. All controls are in every set. -/
abbrev EscapeSet := List Char

/-- Whether a character is escaped. -/
def mustEscape (set : EscapeSet) (c : Char) : Bool :=
  c.toNat < 0x20 || 0x7F ≤ c.toNat || set.contains c

/-- A character, escaped if need be. -/
def escapeChar (set : EscapeSet) (c : Char) : List Char :=
  if mustEscape set c then (Octets.ofText (String.singleton c)).flatMap escapeOctet else [c]

/-- Escapes the characters of a set. -/
def escape (set : EscapeSet) (cs : List Char) : List Char := cs.flatMap (escapeChar set)

/-- What is escaped in a path. -/
def pathSet : EscapeSet := " \"#<>?\x60\x7b\x7d".toList

/-- What is escaped in user information. -/
def userSet : EscapeSet := pathSet ++ "/:;=@[\\]^|".toList

/-- The octets that a text stands for. A percent sign without two digits stands for itself. -/
def octets : List Char → Octets
  | [] => []
  | '%' :: a :: b :: rest =>
    match hexValue? a, hexValue? b with
    | some h, some l => UInt8.ofNat (16 * h + l) :: octets rest
    | _, _ => 0x25 :: octets (a :: b :: rest)
  | c :: rest => Octets.ofText (String.singleton c) ++ octets rest

/-- What needs no escape stays as it is. -/
theorem escape_eq_self {set : EscapeSet} {cs : List Char}
    (h : ∀ c ∈ cs, mustEscape set c = false) : escape set cs = cs := by
  induction cs with
  | nil => rfl
  | cons c cs ih =>
    have hc := h c (List.mem_cons_self ..)
    have hs := ih fun d hd => h d (List.mem_cons_of_mem _ hd)
    simp only [escape, List.flatMap_cons] at hs ⊢
    simp [escapeChar, hc, hs]

end Appliance.Url.Percent
