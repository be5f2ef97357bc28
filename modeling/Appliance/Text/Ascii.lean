/-!
# ASCII letter case

Case is changed and ignored in ASCII letters only; all other characters stand
for themselves.

* `lower`, `upper` : change the case of ASCII letters
* `sameLetters`    : equality up to the case of ASCII letters
-/

namespace Appliance.Text

/-- Lower-cases ASCII letters. -/
def lower (s : String) : String := String.ofList (s.toList.map Char.toLower)

/-- Upper-cases ASCII letters. -/
def upper (s : String) : String := String.ofList (s.toList.map Char.toUpper)

/-- Equality of texts up to the case of ASCII letters. -/
def sameLetters (a b : String) : Bool := lower a == lower b

theorem sameLetters_self (a : String) : sameLetters a a = true := by simp [sameLetters]

theorem sameLetters_iff {a b : String} : sameLetters a b = true ↔ lower a = lower b := by
  simp [sameLetters]

end Appliance.Text
