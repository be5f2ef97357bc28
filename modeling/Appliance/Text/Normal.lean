import Appliance.Text.Normal.Table

/-!
# Composed normal form

Texts that look alike may be written with composed characters or with marks
after a base. The composed normal form chooses one of the spellings: take
everything apart, put the marks of each base in order, and compose what has a
composed form.

* `decompose` : a text taken apart, marks in order
* `compose`   : composes from the left
* `normalize` : the composed normal form
-/

namespace Appliance.Text.Normal

/-- The combining class of a character; bases have class zero. -/
def classOf (c : Char) : Nat :=
  match classes.find? c.toNat with
  | some [k] => k
  | _ => 0

/-! ## Syllables of the Korean script, which are composed by rule -/

/-- The first composed syllable. -/
def syllableBase : Nat := 0xAC00
/-- The first leading consonant. -/
def leadBase : Nat := 0x1100
/-- The first vowel. -/
def vowelBase : Nat := 0x1161
/-- One below the first trailing consonant. -/
def trailBase : Nat := 0x11A7
/-- How many leading consonants there are. -/
def leadCount : Nat := 19
/-- How many vowels there are. -/
def vowelCount : Nat := 21
/-- How many trailing consonants there are, none included. -/
def trailCount : Nat := 28

/-- A syllable taken apart. -/
def splitSyllable? (n : Nat) : Option (List Nat) :=
  if syllableBase ≤ n ∧ n < syllableBase + leadCount * vowelCount * trailCount then
    let i := n - syllableBase
    let lead := leadBase + i / (vowelCount * trailCount)
    let vowel := vowelBase + i / trailCount % vowelCount
    let trail := i % trailCount
    some (if trail = 0 then [lead, vowel] else [lead, vowel, trailBase + trail])
  else none

/-- The syllable of a leading consonant and a vowel, or of an open syllable and a
trailing consonant. -/
def joinSyllable? (a b : Nat) : Option Nat :=
  if leadBase ≤ a ∧ a < leadBase + leadCount ∧ vowelBase ≤ b ∧ b < vowelBase + vowelCount then
    some (syllableBase + ((a - leadBase) * vowelCount + (b - vowelBase)) * trailCount)
  else if syllableBase ≤ a ∧ a < syllableBase + leadCount * vowelCount * trailCount ∧
      (a - syllableBase) % trailCount = 0 ∧ trailBase < b ∧ b < trailBase + trailCount then
    some (a + (b - trailBase))
  else none

/-! ## Taking apart -/

/-- How often a character can be taken apart again. -/
def depth : Nat := 4

/-- A code point taken apart. -/
def splitCode : Nat → Nat → List Nat
  | 0, n => [n]
  | d + 1, n =>
    match splitSyllable? n with
    | some parts => parts
    | none =>
      match pairs.find? n with
      | some [base, mark] => splitCode d base ++ [mark]
      | _ => [n]

/-- Puts a mark after the marks of its class or a lower one, and not before a base. -/
def place (c : Char × Nat) : List (Char × Nat) → List (Char × Nat)
  | [] => [c]
  | d :: rest => if c.2 ≠ 0 ∧ c.2 < d.2 then d :: place c rest else c :: d :: rest

/-- A text taken apart, marks in order. The list is built from the end, so that a
mark finds those that follow it. -/
def decompose (cs : List Char) : List (Char × Nat) :=
  let parts := cs.flatMap fun c => (splitCode depth c.toNat).map Char.ofNat
  (parts.foldl (fun done c => place (c, classOf c) done) []).reverse

/-! ## Composing -/

/-- The composed form of two characters. -/
def join? (a b : Char) : Option Char :=
  match joinSyllable? a.toNat b.toNat with
  | some n => some (Char.ofNat n)
  | none =>
    (pairs.runs.find? fun r => r.target == [a.toNat, b.toNat]).map fun r => Char.ofNat r.lo

/-- The last base, the marks kept after it in reverse, and the class of the last of them. -/
structure Open where
  base : Char
  kept : List Char
  last : Option Nat

/-- The characters of a base and its marks. -/
def Open.chars (o : Open) : List Char := o.base :: o.kept.reverse

/-- Composes from the left: a character joins the last base unless a kept mark of its
class or a higher one stands between them. -/
def composeFrom : Option Open → List (Char × Nat) → List Char
  | none, [] => []
  | some o, [] => o.chars
  | none, (c, k) :: rest =>
    if k = 0 then composeFrom (some ⟨c, [], none⟩) rest else c :: composeFrom none rest
  | some o, (c, k) :: rest =>
    let blocked := match o.last with
      | none => false
      | some l => l = 0 || k ≤ l
    match (if blocked then none else join? o.base c) with
    | some d => composeFrom (some { o with base := d }) rest
    | none =>
      if k = 0 then o.chars ++ composeFrom (some ⟨c, [], none⟩) rest
      else composeFrom (some { o with kept := c :: o.kept, last := some k }) rest

/-- Composes what has a composed form. -/
def compose (cs : List (Char × Nat)) : List Char := composeFrom none cs

/-- The composed normal form. -/
def normalize (cs : List Char) : List Char :=
  if cs.all fun c => c.toNat < 0x80 then cs else compose (decompose cs)

/-- Whether a text is in composed normal form. -/
def isNormal (cs : List Char) : Bool := normalize cs == cs

end Appliance.Text.Normal
