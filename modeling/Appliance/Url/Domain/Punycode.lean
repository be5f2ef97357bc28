/-!
# Punycode

Writes characters beyond ASCII with ASCII letters and digits: the ASCII
characters first, then, after a dash, the others in ascending order, each by how
far an enumeration of all insertions has to advance to reach it. Advances are
numbers with a variable base that adapts to the advances before.

* `encode`  : the ASCII form of a label
* `decode?` : the label of an ASCII form
-/

namespace Appliance.Url.Domain.Punycode

/-- The digit of a value below 36: letters, then decimal digits. -/
def digit (n : Nat) : Char := if n < 26 then Char.ofNat (97 + n) else Char.ofNat (22 + n)

/-- The value of a digit of either case. -/
def digitValue? (c : Char) : Option Nat :=
  if 'a' ≤ c ∧ c ≤ 'z' then some (c.toNat - 97)
  else if 'A' ≤ c ∧ c ≤ 'Z' then some (c.toNat - 65)
  else if '0' ≤ c ∧ c ≤ '9' then some (c.toNat - 22)
  else none

/-- The least digit value that is followed by another digit, at a position. -/
def threshold (position bias : Nat) : Nat :=
  if position ≤ bias then 1 else if bias + 26 ≤ position then 26 else position - bias

theorem threshold_bounds (position bias : Nat) :
    1 ≤ threshold position bias ∧ threshold position bias ≤ 26 := by
  simp only [threshold]
  split
  · omega
  · split <;> omega

/-- Divides an advance until it is small; `k` counts positions. -/
def settle (delta k : Nat) : Nat :=
  if 455 < delta then settle (delta / 35) (k + 36) else k + 36 * delta / (delta + 38)
termination_by delta
decreasing_by omega

/-- The bias after an advance to the given number of characters. -/
def adapt (delta count : Nat) (first : Bool) : Nat :=
  let d := if first then delta / 700 else delta / 2
  settle (d + d / count) 0

/-- The bias at first. -/
def initialBias : Nat := 72

/-- The digits of an advance. -/
def digits (bias position q : Nat) : List Char :=
  if h : q < threshold position bias then [digit q]
  else
    let t := threshold position bias
    digit (t + (q - t) % (36 - t)) :: digits bias (position + 36) ((q - t) / (36 - t))
termination_by q
decreasing_by
  have hb := threshold_bounds position bias
  exact Nat.lt_of_le_of_lt (Nat.div_le_self ..) (by omega)

/-- How far the enumeration has come. -/
structure Writer where
  delta : Nat
  bias : Nat
  handled : Nat
  first : Bool

/-- Passes one character of the label while code point `n` is inserted. -/
def pass (n : Nat) (state : List Char × Writer) (c : Char) : List Char × Writer :=
  let (out, w) := state
  if c.toNat < n then (out, { w with delta := w.delta + 1 })
  else if c.toNat = n then
    (out ++ digits w.bias 36 w.delta,
      ⟨0, adapt w.delta (w.handled + 1) w.first, w.handled + 1, false⟩)
  else (out, w)

/-- Inserts code points in ascending order, the last one before being `previous - 1`. -/
def insertAll (label : List Char) : List Nat → Nat → List Char × Writer → List Char
  | [], _, (out, _) => out
  | n :: rest, previous, (out, w) =>
    let start := { w with delta := w.delta + (n - previous) * (w.handled + 1) }
    let (out', w') := label.foldl (pass n) (out, start)
    insertAll label rest (n + 1) (out', { w' with delta := w'.delta + 1 })

/-- The ASCII form of a label. -/
def encode (label : List Char) : List Char :=
  let plain := label.filter fun c => c.toNat < 0x80
  let extra := ((label.filter fun c => 0x80 ≤ c.toNat).map Char.toNat).mergeSort.eraseDups
  let head := if plain.isEmpty then [] else plain ++ ['-']
  head ++ insertAll label extra 0x80 ([], ⟨0, initialBias, plain.length, true⟩)

/-- An advance that is being read: its value, the weight of the next digit and its position. -/
structure Advance where
  value : Nat
  weight : Nat
  position : Nat

/-- The start of an advance. -/
def Advance.start : Advance := ⟨0, 1, 36⟩

/-- What has been read: the characters so far, the code point and the place of the
enumeration, and the bias. -/
structure Reader where
  chars : List Char
  code : Nat
  place : Nat
  bias : Nat

/-- Numbers stay below this one. -/
def limit : Nat := 0x100000000

/-- Inserts the character that an advance leads to. -/
def Reader.insert? (r : Reader) (advance : Nat) : Option Reader :=
  let count := r.chars.length + 1
  let total := r.place + advance
  let code := r.code + total / count
  if limit ≤ total ∨ ¬code.isValidChar then none
  else some {
    chars := r.chars.insertIdx (total % count) (Char.ofNat code)
    code
    place := total % count + 1
    bias := adapt advance count (r.place == 0) }

/-- Reads the digits of advances. -/
def readDigits : Reader → Advance → Bool → List Char → Option Reader
  | r, _, begun, [] => if begun then none else some r
  | r, a, _, c :: rest =>
    match digitValue? c with
    | none => none
    | some d =>
      let value := a.value + d * a.weight
      let t := threshold a.position r.bias
      if limit ≤ value then none
      else if d < t then
        match r.insert? value with
        | some r' => readDigits r' .start false rest
        | none => none
      else readDigits r ⟨value, a.weight * (36 - t), a.position + 36⟩ true rest

/-- Splits an ASCII form at its last dash. A dash at the start is no split. -/
def splitPlain (cs : List Char) : List Char × List Char :=
  let tail := (cs.reverse.takeWhile (· ≠ '-')).reverse
  let plain := cs.take (cs.length - tail.length - 1)
  if plain.isEmpty then ([], cs) else (plain, tail)

/-- The label of an ASCII form. -/
def decode? (cs : List Char) : Option (List Char) :=
  let (plain, tail) := splitPlain cs
  if plain.all fun c => c.toNat < 0x80 then
    (readDigits ⟨plain, 0x80, 0, initialBias⟩ .start false tail).map (·.chars)
  else none

end Appliance.Url.Domain.Punycode
