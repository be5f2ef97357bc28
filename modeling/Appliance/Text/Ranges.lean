/-!
# Sets of code points

A property of characters is a set of code points, kept as a list of closed
ranges and written as text: hexadecimal numbers separated by blanks and line
ends, with a dash between the two ends of a range. `Ranges.ofText` reads that form and
`Ranges.contains` decides membership.

* `hexValue?` : the value of a hexadecimal digit of either case
* `Ranges`    : a set of code points
-/

namespace Appliance.Text

/-- The value of a hexadecimal digit of either case. -/
def hexValue? (c : Char) : Option Nat :=
  if '0' ≤ c ∧ c ≤ '9' then some (c.toNat - 48)
  else if 'a' ≤ c ∧ c ≤ 'f' then some (c.toNat - 87)
  else if 'A' ≤ c ∧ c ≤ 'F' then some (c.toNat - 55)
  else none

/-- The lower-case hexadecimal digit of a value below sixteen. -/
def hexDigit (n : Nat) : Char :=
  if n < 10 then Char.ofNat (48 + n) else Char.ofNat (87 + n)

/-- The upper-case hexadecimal digit of a value below sixteen. -/
def upperHexDigit (n : Nat) : Char :=
  if n < 10 then Char.ofNat (48 + n) else Char.ofNat (55 + n)

/-- The number that a run of hexadecimal digits denotes; other characters count as zero. -/
def readHex (digits : List Char) : Nat :=
  digits.foldl (fun n c => 16 * n + (hexValue? c).getD 0) 0

/-- The shortest lower-case hexadecimal digits of a number. -/
def hexDigits (n : Nat) : List Char := Nat.toDigits 16 n

/-- The words of a text: what stands between blanks and line ends. -/
def words (text : String) : List String :=
  (text.split fun c => c = ' ' || c = '\n').toStringList.filter fun w => w != ""

/-- A set of code points, as closed ranges. -/
structure Ranges where
  spans : List (Nat × Nat)

namespace Ranges

/-- One range of the written form: `lo-hi`, or a single number. -/
def readSpan (word : String) : Nat × Nat :=
  match word.splitOn "-" with
  | [lo, hi] => (readHex lo.toList, readHex hi.toList)
  | _ => (readHex word.toList, readHex word.toList)

/-- Reads a set from its written form. -/
def ofText (text : String) : Ranges := ⟨(words text).map readSpan⟩

/-- Membership of a code point. -/
def containsNat (r : Ranges) (n : Nat) : Bool :=
  r.spans.any fun span => span.1 ≤ n && n ≤ span.2

/-- Membership of a character. -/
def contains (r : Ranges) (c : Char) : Bool := r.containsNat c.toNat

end Ranges

end Appliance.Text
