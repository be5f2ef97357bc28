import Appliance.Http.Head

/-!
# Bodies of answers

The body of an answer follows its head: in chunks that each state their size, or
as many octets as a field of the head says, or all that comes until the
connection ends.

* `unchunked?` : the body that chunks make up
* `Whole.read` : an answer, given all that came until the connection ended
-/

namespace Appliance.Http

/-- The value of a hexadecimal digit. -/
def hexDigit? (b : UInt8) : Option Nat :=
  if 48 ≤ b.toNat ∧ b.toNat ≤ 57 then some (b.toNat - 48)
  else if 65 ≤ b.toNat ∧ b.toNat ≤ 70 then some (b.toNat - 55)
  else if 97 ≤ b.toNat ∧ b.toNat ≤ 102 then some (b.toNat - 87)
  else none

/-- A line up to its line feed, and what follows; there is none without a line feed. -/
def splitLine? : Octets → Option (Octets × Octets)
  | [] => none
  | b :: rest =>
    if b = lf then some ([], rest)
    else (splitLine? rest).map fun (line, rest) => (b :: line, rest)

/-- The size that a chunk states. -/
def chunkSize? (line : Octets) : Option Nat :=
  match line.map hexDigit? |>.takeWhile Option.isSome with
  | [] => none
  | digits => some (digits.foldl (fun n d => 16 * n + d.getD 0) 0)

/-- The body that chunks make up, at most `fuel` of them. A chunk of no octets is the last. -/
def unchunked? : (fuel : Nat) → Octets → Option Octets
  | 0, _ => none
  | fuel + 1, octets =>
    (splitLine? octets).bind fun (line, rest) =>
      (chunkSize? line).bind fun size =>
        if size = 0 then some []
        else if rest.length < size then none
        else (splitLine? (rest.drop size)).bind fun (_, more) =>
          (unchunked? fuel more).map (rest.take size ++ ·)

/-- The number that decimal digits are. -/
def decimal? (value : Octets) : Option Nat :=
  match value.map digit? with
  | [] => none
  | digits => digits.foldl (fun n d => n.bind fun n => d.map fun d => 10 * n + d) (some 0)

/-- Statuses whose answers have no body. -/
def hasBody (status : Nat) : Bool := status != 204 && status != 304

/-- A whole answer. -/
structure Whole where
  head : Head
  body : Octets

/-- An answer, given all that came until the connection ended; there is none if some of it
is missing. -/
def Whole.read (octets : Octets) : Option Whole :=
  match readHead octets with
  | .done head rest =>
    if !hasBody head.status then some ⟨head, []⟩
    else
      let body : Option Octets := match head.field? "transfer-encoding", head.field? "content-length" with
        | some _, _ => unchunked? (rest.length + 1) rest
        | none, some value => (decimal? value).bind fun size =>
            if rest.length < size then none else some (rest.take size)
        | none, none => some rest
      body.map fun body => ⟨head, body⟩
  | _ => none

end Appliance.Http
