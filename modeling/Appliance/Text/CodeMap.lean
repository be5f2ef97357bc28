import Appliance.Text.Ranges

/-!
# Maps of code points

What code points stand for, written as text. `c=t.t` gives the code points `t`
for `c`. A run `lo-hi=t` gives `t` for `lo`, the code point after `t` for the
one after `lo`, and so on; `lo/hi=t` does so for every second code point; and
`lo*hi=t` gives `t` for all of the run. Numbers are hexadecimal.

* `CodeMap`       : a map of code points
* `CodeMap.find?` : what a code point stands for
-/

namespace Appliance.Text

/-- A run of code points and what they stand for. -/
structure CodeRun where
  lo : Nat
  hi : Nat
  /-- The distance of the code points that the run holds. -/
  step : Nat
  /-- What the first one stands for. -/
  target : List Nat
  /-- Whether the target moves with the code point. -/
  moves : Bool

namespace CodeRun

/-- Reads the left side of an entry. -/
def ofSides (left : String) (target : List Nat) : CodeRun :=
  let number (s : String) : Nat := readHex s.toList
  match left.splitOn "-", left.splitOn "/", left.splitOn "*" with
  | [lo, hi], _, _ => ⟨number lo, number hi, 1, target, true⟩
  | _, [lo, hi], _ => ⟨number lo, number hi, 2, target, true⟩
  | _, _, [lo, hi] => ⟨number lo, number hi, 1, target, false⟩
  | _, _, _ => ⟨number left, number left, 1, target, false⟩

/-- Reads an entry. -/
def ofWord? (word : String) : Option CodeRun :=
  match word.splitOn "=" with
  | [left, right] => some (ofSides left ((right.splitOn ".").map fun t => readHex t.toList))
  | _ => none

/-- What a code point of the run stands for. -/
def find? (r : CodeRun) (n : Nat) : Option (List Nat) :=
  if r.lo ≤ n ∧ n ≤ r.hi ∧ (n - r.lo) % r.step = 0 then
    some (if r.moves then r.target.map (· + (n - r.lo)) else r.target)
  else none

end CodeRun

/-- A map of code points. -/
structure CodeMap where
  runs : List CodeRun

namespace CodeMap

/-- Reads a map from its written form. -/
def ofText (text : String) : CodeMap := ⟨(words text).filterMap CodeRun.ofWord?⟩

/-- What a code point stands for. -/
def find? (m : CodeMap) (n : Nat) : Option (List Nat) := m.runs.findSome? fun r => r.find? n

end CodeMap

end Appliance.Text
