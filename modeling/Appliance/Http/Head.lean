import Appliance.Secret
import Appliance.Text.Ascii

/-!
# Heads of answers

An answer of a server begins with a head: a line with version and status, lines
with fields, and an empty line. Empty lines before it do not count.

* `Parsed`         : what octets begin with, unless they end too early or are no such thing
* `readHead`       : the head that some octets begin with
* `Head.field?`    : the value of a field
-/

namespace Appliance.Http

/-- The head of an answer. -/
structure Head where
  minorVersion : Nat
  status : Nat
  /-- Names and values, in order. -/
  fields : List (Octets × Octets)

/-- What octets begin with. -/
inductive Parsed (α : Type) where
  /-- The octets end too early. -/
  | early
  | bad
  | done (value : α) (rest : Octets)

namespace Parsed

/-- Goes on with the rest. -/
def andThen {α β : Type} (p : Parsed α) (f : α → Octets → Parsed β) : Parsed β :=
  match p with
  | .early => .early
  | .bad => .bad
  | .done value rest => f value rest

end Parsed

/-- Carriage return. -/
def cr : UInt8 := 13

/-- Line feed. -/
def lf : UInt8 := 10

/-- The end of a line: a line feed, before which a carriage return may stand. -/
def lineEnd : Octets → Parsed Unit
  | [] => .early
  | [b] => if b = lf then .done () [] else if b = cr then .early else .bad
  | b :: c :: rest =>
    if b = lf then .done () (c :: rest)
    else if b = cr ∧ c = lf then .done () rest
    else .bad

/-- Octets that must come next. -/
def expect : List UInt8 → Octets → Parsed Unit
  | [], rest => .done () rest
  | _ :: _, [] => .early
  | a :: as, b :: rest => if a = b then expect as rest else .bad

/-- Leaves out empty lines. -/
def skipLines : (fuel : Nat) → Octets → Parsed Unit
  | 0, rest => .done () rest
  | fuel + 1, rest =>
    match rest with
    | [] => .early
    | b :: _ =>
      if b = cr ∨ b = lf then (lineEnd rest).andThen fun _ rest => skipLines fuel rest
      else .done () rest

/-- The octets of a text. -/
def ascii (s : String) : List UInt8 := s.toList.map fun c => UInt8.ofNat c.toNat

/-- The minor version. -/
def minorVersion (octets : Octets) : Parsed Nat :=
  (expect (ascii "HTTP/1.") octets).andThen fun _ rest =>
    match rest with
    | [] => .early
    | b :: rest => if b = 48 then .done 0 rest else if b = 49 then .done 1 rest else .bad

/-- The value of a digit. -/
def digit? (b : UInt8) : Option Nat :=
  if 48 ≤ b.toNat ∧ b.toNat ≤ 57 then some (b.toNat - 48) else none

/-- A number of `n` digits. -/
def digits : (n : Nat) → Nat → Octets → Parsed Nat
  | 0, k, rest => .done k rest
  | _ + 1, _, [] => .early
  | n + 1, k, b :: rest =>
    match digit? b with
    | some d => digits n (10 * k + d) rest
    | none => .bad

/-- Whether an octet may stand in a value. -/
def isValueOctet (b : UInt8) : Bool := b = 9 || (32 ≤ b.toNat && b.toNat != 127)

/-- Octets that may stand in a value, up to the end of the line. -/
def valueLine : Octets → Parsed Octets
  | [] => .early
  | b :: rest =>
    if isValueOctet b then (valueLine rest).andThen fun value rest => .done (b :: value) rest
    else (lineEnd (b :: rest)).andThen fun _ rest => .done [] rest

/-- The rest of the status line: nothing, or a blank and a reason. -/
def reason : Octets → Parsed Unit
  | [] => .early
  | b :: rest => if b = 32 then (valueLine rest).andThen fun _ rest => .done () rest
    else lineEnd (b :: rest)

/-- Whether an octet may stand in a name. -/
def isNameOctet (b : UInt8) : Bool :=
  let c := Char.ofNat b.toNat
  b.toNat < 128 && (c.isAlphanum || "!#$%&'*+-.^_\x60|~".toList.contains c)

/-- A name, which a colon ends. -/
def nameUntilColon : Octets → Parsed Octets
  | [] => .early
  | b :: rest =>
    if b = 58 then .done [] rest
    else if isNameOctet b then (nameUntilColon rest).andThen fun name rest => .done (b :: name) rest
    else .bad

/-- Whether an octet is a blank or a tab. -/
def isGap (b : UInt8) : Bool := b = 32 || b = 9

/-- A value without the blanks around it. -/
def trimGaps (value : Octets) : Octets :=
  (((value.dropWhile isGap).reverse).dropWhile isGap).reverse

/-- The most fields that a head may have. -/
def fieldLimit : Nat := 124

/-- The fields, up to an empty line. -/
def fields : (fuel : Nat) → Octets → Parsed (List (Octets × Octets))
  | _, [] => .early
  | fuel, b :: rest =>
    if b = cr ∨ b = lf then (lineEnd (b :: rest)).andThen fun _ rest => .done [] rest
    else match fuel with
      | 0 => .bad
      | fuel + 1 =>
        if isNameOctet b then
          (nameUntilColon (b :: rest)).andThen fun name rest =>
            (valueLine rest).andThen fun value rest =>
              (fields fuel rest).andThen fun more rest =>
                .done ((name, trimGaps value) :: more) rest
        else .bad

/-- The head that octets begin with. -/
def readHead (octets : Octets) : Parsed Head :=
  (skipLines octets.length octets).andThen fun _ rest =>
    (minorVersion rest).andThen fun minorVersion rest =>
      (expect [32] rest).andThen fun _ rest =>
        (digits 3 0 rest).andThen fun status rest =>
          (reason rest).andThen fun _ rest =>
            (fields fieldLimit rest).andThen fun fields rest =>
              .done { minorVersion, status, fields } rest

/-! ## Fields -/

/-- Octets in lower case. -/
def lowerOctets (octets : Octets) : Octets :=
  octets.map fun b => if 65 ≤ b.toNat && b.toNat ≤ 90 then b + 32 else b

/-- The value of the first field with a name, which is given in lower case. -/
def Head.field? (h : Head) (name : String) : Option Octets :=
  (h.fields.find? fun f => lowerOctets f.1 == ascii name).map (·.2)

end Appliance.Http
