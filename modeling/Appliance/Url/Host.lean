import Appliance.Text.Utf8
import Appliance.Url.Domain
import Appliance.Url.Percent

/-!
# Hosts

A host is a domain name or the number of a machine, of 32 bits (written as four
decimal numbers) or of eight groups of 16 bits (written in brackets, the longest
run of zero groups left out).

* `Fault`       : why a text is no web address
* `Host`        : a host whose written form is read as that host
* `Host.read`   : reads a host
-/

namespace Appliance.Url

open Appliance.Text

/-- Why a text is no address. -/
inductive Fault where
  | emptyHost
  | invalidPort
  | invalidIpv4
  | invalidIpv6
  | invalidDomain
  | invalidCharacter
  | relative
deriving DecidableEq, Repr

/-- The wording of a fault. -/
def Fault.message : Fault → String
  | .emptyHost => "empty host"
  | .invalidPort => "invalid port number"
  | .invalidIpv4 => "invalid IPv4 address"
  | .invalidIpv6 => "invalid IPv6 address"
  | .invalidDomain => "invalid international domain name"
  | .invalidCharacter => "invalid domain character"
  | .relative => "relative URL without a base"

/-- Cuts a text at every occurrence of a character. -/
def cutAt (mark : Char) : List Char → List (List Char)
  | [] => [[]]
  | c :: cs =>
    match cutAt mark cs with
    | [] => [[c]]
    | part :: parts => if c = mark then [] :: part :: parts else (c :: part) :: parts

/-! ## Numbers of 32 bits -/

namespace Ipv4

/-- The number that digits of a base denote. -/
def numberIn (base : Nat) (ds : List Char) : Option Nat :=
  ds.foldlM (fun n c => (hexValue? c).bind fun d => if d < base then some (base * n + d) else none) 0

/-- Reads one part: decimal, octal after a zero, hexadecimal after `0x`. -/
def part? : List Char → Option Nat
  | [] => none
  | '0' :: 'x' :: ds => numberIn 16 ds
  | '0' :: 'X' :: ds => numberIn 16 ds
  | ['0'] => some 0
  | '0' :: ds => numberIn 8 ds
  | ds => numberIn 10 ds

/-- The parts of a text. A dot at the end does not count. -/
def parts (cs : List Char) : List (List Char) :=
  let ps := cutAt '.' cs
  if ps.getLast? = some [] then ps.dropLast else ps

/-- Whether the last part is a number, so that the whole must be one. -/
def endsInNumber (cs : List Char) : Bool :=
  match (parts cs).getLast? with
  | none => false
  | some last => (!last.isEmpty && last.all Char.isDigit) || (part? last).isSome

/-- The value of parts: all but the last are octets, and the last fills what is left. -/
def combine? (ns : List Nat) : Option Nat :=
  match ns.reverse with
  | [] => none
  | last :: before =>
    if 3 < before.length ∨ before.any (255 < ·) ∨ Nat.pow 256 (4 - before.length) ≤ last then none
    else some (before.reverse.foldl (256 * · + ·) 0 * Nat.pow 256 (4 - before.length) + last)

/-- Reads a number of 32 bits. -/
def read? (cs : List Char) : Option Nat :=
  let ps := parts cs
  if 4 < ps.length then none else (ps.mapM part?).bind combine?

/-- The four octets. -/
def octetsOf (n : Nat) : List Nat :=
  [n / 16777216 % 256, n / 65536 % 256, n / 256 % 256, n % 256]

/-- The written form. -/
def chars (n : Nat) : List Char :=
  ['.'].intercalate ((octetsOf n).map fun k => (toString k).toList)

end Ipv4

/-! ## Numbers of eight groups -/

namespace Ipv6

/-- Splits at the first pair of colons. -/
def splitGap : List Char → Option (List Char × List Char)
  | [] => none
  | [_] => none
  | a :: b :: rest =>
    if a = ':' ∧ b = ':' then some ([], rest)
    else (splitGap (b :: rest)).map fun (l, r) => (a :: l, r)

/-- Reads a group of one to four hexadecimal digits. -/
def group? (ds : List Char) : Option Nat :=
  if ds.isEmpty ∨ 4 < ds.length then none else Ipv4.numberIn 16 ds

/-- Reads a decimal octet without leading zeros. -/
def octet? (ds : List Char) : Option Nat :=
  match ds with
  | [] => none
  | '0' :: _ :: _ => none
  | _ => (Ipv4.numberIn 10 ds).bind fun n => if n < 256 then some n else none

/-- Reads four decimal octets as two groups. -/
def dotted? (cs : List Char) : Option (List Nat) :=
  match (cutAt '.' cs).mapM octet? with
  | some [a, b, c, d] => some [256 * a + b, 256 * c + d]
  | _ => none

/-- Reads groups, of which the last may be four decimal octets if `last` allows it. -/
def groups? (last : Bool) : List (List Char) → Option (List Nat)
  | [] => some []
  | [g] => if last && g.contains '.' then dotted? g else (group? g).map fun n => [n]
  | g :: gs => (group? g).bind fun n => (groups? last gs).map (n :: ·)

/-- Reads one side of a gap. -/
def side? (last : Bool) (cs : List Char) : Option (List Nat) :=
  if cs.isEmpty then some [] else groups? last (cutAt ':' cs)

/-- Reads eight groups. -/
def read? (cs : List Char) : Option (List Nat) :=
  match splitGap cs with
  | none => (groups? true (cutAt ':' cs)).bind fun gs => if gs.length = 8 then some gs else none
  | some (l, r) =>
    (side? false l).bind fun left => (side? true r).bind fun right =>
      let count := left.length + right.length
      if count ≤ 7 then some (left ++ List.replicate (8 - count) 0 ++ right) else none

/-- How many zeros a list begins with. -/
def zeros (gs : List Nat) : Nat := (gs.takeWhile (· == 0)).length

/-- The place and length of the first longest run of zeros, from place `i` on. -/
def longestRun : Nat → List Nat → Nat × Nat
  | _, [] => (0, 0)
  | i, g :: gs =>
    let here := zeros (g :: gs)
    let rest := longestRun (i + 1) gs
    if rest.2 ≤ here ∧ 0 < here then (i, here) else rest

/-- Groups between colons. -/
def joined (gs : List Nat) : List Char := [':'].intercalate (gs.map hexDigits)

/-- The written form, without brackets. -/
def chars (gs : List Nat) : List Char :=
  let (at0, count) := longestRun 0 gs
  if 2 ≤ count then joined (gs.take at0) ++ [':', ':'] ++ joined (gs.drop (at0 + count))
  else joined gs

/-- The form of diagnostics, in which an embedded number of 32 bits is dotted. -/
def debugChars (gs : List Nat) : List Char :=
  match gs with
  | [0, 0, 0, 0, 0, 0xFFFF, a, b] =>
    "::ffff:".toList ++ Ipv4.chars (65536 * a + b)
  | _ => chars gs

end Ipv6

/-! ## Hosts -/

/-- The kinds of hosts. -/
inductive HostForm where
  | domain (d : Domain)
  | ipv4 (n : Nat)
  | ipv6 (groups : List Nat)
deriving DecidableEq

namespace HostForm

/-- The written form. -/
def chars : HostForm → List Char
  | .domain d => d.chars
  | .ipv4 n => Ipv4.chars n
  | .ipv6 gs => '[' :: Ipv6.chars gs ++ [']']

/-- Reads a host. -/
def read (cs : List Char) : Except Fault HostForm :=
  match cs with
  | '[' :: inner =>
    if inner.getLast? = some ']' then
      match Ipv6.read? inner.dropLast with
      | some gs => .ok (.ipv6 gs)
      | none => .error .invalidIpv6
    else .error .invalidIpv6
  | _ =>
    match Domain.read? (Utf8.lossy (Percent.octets cs)).toList with
    | none => .error .invalidDomain
    | some d =>
      if d.chars.isEmpty then .error .emptyHost
      else if Ipv4.endsInNumber d.chars then
        match Ipv4.read? d.chars with
        | some n => .ok (.ipv4 n)
        | none => .error .invalidIpv4
      else .ok (.domain d)

end HostForm

/-- A host whose written form is read as that host. -/
structure Host where
  form : HostForm
  fixed : (HostForm.read form.chars).toOption = some form

namespace Host

/-- Equality of hosts is equality of their forms. -/
instance : DecidableEq Host := fun a b =>
  if h : a.form = b.form then isTrue (by cases a; cases b; simp_all)
  else isFalse fun e => h (congrArg form e)

/-- The written form. -/
def chars (h : Host) : List Char := h.form.chars

/-- The text of a host. -/
def text (h : Host) : String := String.ofList h.chars

/-- Reads a host. -/
def read (cs : List Char) : Except Fault Host :=
  match HostForm.read cs with
  | .error f => .error f
  | .ok form =>
    if fixed : (HostForm.read form.chars).toOption = some form then .ok ⟨form, fixed⟩
    else .error .invalidDomain

/-- The form of a host is what its written form is read as. -/
theorem readForm_chars (h : Host) : HostForm.read h.chars = .ok h.form := by
  have hf := h.fixed
  unfold chars
  cases hr : HostForm.read h.form.chars with
  | error f => simp [hr, Except.toOption] at hf
  | ok form => simp_all [Except.toOption]

/-- The written form of a host is read as that host. -/
theorem read_chars (h : Host) : read h.chars = .ok h := by
  simp [read, readForm_chars, h.fixed]

end Host

end Appliance.Url
