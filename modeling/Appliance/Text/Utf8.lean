import Appliance.Secret

/-!
# UTF-8 from outside

Octets that should be UTF-8 but need not be. Reading never fails: the octets of
a character that breaks off are replaced together, octets that begin none one by
one. A second reading says where the first fault lies.

* `Utf8.lossy`       : the text with replacements
* `Utf8.firstFault?` : where the octets cease to be UTF-8
-/

namespace Appliance.Text.Utf8

/-- A character whose octets are not all there: how many are missing, the bounds of
the next one, the bits so far, and how many octets it has taken. -/
structure Pending where
  missing : Nat
  lo : Nat
  hi : Nat
  bits : Nat
  taken : Nat

/-- What an octet at the start of a character means. -/
inductive Lead where
  | whole (c : Char)
  | more (p : Pending)
  | bad

/-- Reads the first octet of a character. -/
def lead (b : UInt8) : Lead :=
  let n := b.toNat
  let more (missing lo hi bits : Nat) : Lead := .more ⟨missing, lo, hi, bits, 1⟩
  if n < 0x80 then .whole (Char.ofNat n)
  else if n < 0xC2 then .bad
  else if n < 0xE0 then more 1 0x80 0xBF (n - 0xC0)
  else if n = 0xE0 then more 2 0xA0 0xBF 0
  else if n = 0xED then more 2 0x80 0x9F 0xD
  else if n < 0xF0 then more 2 0x80 0xBF (n - 0xE0)
  else if n = 0xF0 then more 3 0x90 0xBF 0
  else if n < 0xF4 then more 3 0x80 0xBF (n - 0xF0)
  else if n = 0xF4 then more 3 0x80 0x8F 4
  else .bad

/-- Stands for octets that are no character. -/
def replacement : Char := Char.ofNat 0xFFFD

/-- The characters that are complete after an octet at the start of one. -/
def begun (b : UInt8) : List Char × Option Pending :=
  match lead b with
  | .whole c => ([c], none)
  | .more p => ([], some p)
  | .bad => ([replacement], none)

/-- The pending character with one more octet; `none` if the octet does not continue it. -/
def Pending.extend? (p : Pending) (b : UInt8) : Option Pending :=
  if p.lo ≤ b.toNat ∧ b.toNat ≤ p.hi then
    some ⟨p.missing - 1, 0x80, 0xBF, 64 * p.bits + (b.toNat - 0x80), p.taken + 1⟩
  else none

/-- The characters of octets after a pending one. -/
def charsFrom : Option Pending → Octets → List Char
  | none, [] => []
  | some _, [] => [replacement]
  | none, b :: rest => let (cs, p) := begun b; cs ++ charsFrom p rest
  | some p, b :: rest =>
    match p.extend? b with
    | some q =>
      if q.missing = 0 then Char.ofNat q.bits :: charsFrom none rest
      else charsFrom (some q) rest
    | none => let (cs, q) := begun b; replacement :: cs ++ charsFrom q rest

/-- The text of octets, with replacements where they are not UTF-8. -/
def lossy (octets : Octets) : String := String.ofList (charsFrom none octets)

/-- Where octets cease to be UTF-8: after how many, and how many belong to the broken
character, unless the octets merely end too early. -/
structure Fault where
  valid : Nat
  width : Option Nat
deriving DecidableEq, Repr

/-- The first fault after a pending character, with `valid` octets before that. -/
def faultFrom (valid : Nat) : Option Pending → Octets → Option Fault
  | none, [] => none
  | some _, [] => some ⟨valid, none⟩
  | none, b :: rest =>
    match lead b with
    | .whole _ => faultFrom (valid + 1) none rest
    | .more p => faultFrom valid (some p) rest
    | .bad => some ⟨valid, some 1⟩
  | some p, b :: rest =>
    match p.extend? b with
    | some q =>
      if q.missing = 0 then faultFrom (valid + q.taken) none rest
      else faultFrom valid (some q) rest
    | none => some ⟨valid, some p.taken⟩

/-- The first fault of octets. -/
def firstFault? (octets : Octets) : Option Fault := faultFrom 0 none octets

/-- The wording of a fault. -/
def Fault.message (f : Fault) : String :=
  match f.width with
  | some n =>
    "invalid utf-8 sequence of " ++ toString n ++ " bytes from index " ++ toString f.valid
  | none => "incomplete utf-8 byte sequence from index " ++ toString f.valid

end Appliance.Text.Utf8
