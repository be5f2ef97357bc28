/-!
# White space

The characters with the White_Space property, and trimming by them. Names,
addresses and records are trimmed by this class, which is larger than the
ASCII blanks.

* `isBlank`    : the White_Space property
* `trim`       : drops blanks from both ends
* `trim_trim`  : trimming twice is trimming once
-/

namespace Appliance.Text

/-- The White_Space property of characters. -/
def isBlank (c : Char) : Bool :=
  let n := c.toNat
  (9 ≤ n && n ≤ 13) || n == 0x20 || n == 0x85 || n == 0xA0 || n == 0x1680 ||
    (0x2000 ≤ n && n ≤ 0x200A) || n == 0x2028 || n == 0x2029 || n == 0x202F ||
    n == 0x205F || n == 0x3000

/-- Every ASCII blank has the White_Space property. -/
theorem isBlank_of_isWhitespace {c : Char} (h : c.isWhitespace = true) : isBlank c = true := by
  simp only [Char.isWhitespace, Bool.or_eq_true, decide_eq_true_eq] at h
  rcases h with ((rfl | rfl) | rfl) | rfl <;> decide

/-- Drops blanks from both ends. -/
def trimChars (cs : List Char) : List Char :=
  (((cs.dropWhile isBlank).reverse).dropWhile isBlank).reverse

/-- Drops blanks from both ends of a text. -/
def trim (s : String) : String := String.ofList (trimChars s.toList)

/-- Drops every blank of a text. -/
def removeBlanks (s : String) : String := String.ofList (s.toList.filter fun c => !isBlank c)

theorem trimChars_nil : trimChars [] = [] := rfl

/-- A text that begins with no blank keeps its beginning. -/
theorem dropWhile_isBlank_eq_self {cs : List Char} (h : ∀ c, cs.head? = some c → isBlank c = false) :
    cs.dropWhile isBlank = cs := by
  cases cs with
  | nil => rfl
  | cons c cs => simp [h c rfl]

theorem isBlank_head?_dropWhile {cs : List Char} {c : Char}
    (h : (cs.dropWhile isBlank).head? = some c) : isBlank c = false := by
  have hnot := List.head?_dropWhile_not isBlank cs
  rw [h] at hnot
  simpa using hnot

theorem trimChars_isPrefixOf (cs : List Char) : trimChars cs <+: cs.dropWhile isBlank := by
  rw [trimChars, ← List.reverse_suffix, List.reverse_reverse]
  exact List.dropWhile_suffix isBlank

/-- What is left of a text stands in it. -/
theorem trimChars_sublist (cs : List Char) : (trimChars cs).Sublist cs :=
  (trimChars_isPrefixOf cs).sublist.trans (List.dropWhile_suffix isBlank).sublist

/-- Trimming twice is trimming once. -/
theorem trimChars_trimChars (cs : List Char) : trimChars (trimChars cs) = trimChars cs := by
  -- what is left begins as the text does without the blanks at its beginning
  have hbegin : (trimChars cs).dropWhile isBlank = trimChars cs := by
    refine dropWhile_isBlank_eq_self fun c hc => isBlank_head?_dropWhile (?_ : (cs.dropWhile isBlank).head? = some c)
    obtain ⟨rest, hrest⟩ := trimChars_isPrefixOf cs
    rw [← hrest, List.head?_append, hc]
    rfl
  have hend : (trimChars cs).reverse.dropWhile isBlank = (trimChars cs).reverse := by
    rw [trimChars, List.reverse_reverse]
    exact dropWhile_isBlank_eq_self fun c => isBlank_head?_dropWhile
  rw [trimChars, hbegin, hend, List.reverse_reverse]

theorem trim_trim (s : String) : trim (trim s) = trim s := by
  rw [trim, trim, String.toList_ofList, trimChars_trimChars]

end Appliance.Text
