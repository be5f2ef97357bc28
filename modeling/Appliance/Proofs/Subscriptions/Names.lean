import Appliance.Subscriptions
import Mathlib.Data.List.TakeWhile

/-!
# Names of events

Handlers are registered under the normal form of a name. This file shows that two names have
the same normal form when they are the same but for the blanks around them and the case of
their ASCII letters, and that a normal form is a name like any other.

* `SameName` — two names that are the same to a registry.
* `isBlank_toLower` — changing the case of a character makes no blank of it.
* `trimChars_of_around` — trimming does not depend on the blanks around a text.
* `normalize_normalize` — a normal form is its own.
* **`sameName_iff`** — names are the same when their normal forms are.
-/

namespace Appliance.Subscriptions

open Text

/-- `Around core cs`: nothing but blanks stands around `core` in `cs`. -/
def Around (core cs : List Char) : Prop :=
  ∃ before after, cs = before ++ core ++ after ∧
    (∀ c ∈ before, isBlank c = true) ∧ ∀ c ∈ after, isBlank c = true

/-- `SameName a b`: the names differ in the blanks around them and in the case of ASCII
letters at most. -/
def SameName (a b : String) : Prop :=
  ∃ core core', Around core a.toList ∧ Around core' b.toList ∧
    core.map Char.toLower = core'.map Char.toLower

/-! ## The case of letters -/

/-- Only the letters from `A` to `Z` have another form in lower case. -/
theorem toLower_cases (c : Char) :
    c.toLower = c ∨ 65 ≤ c.toNat ∧ c.toNat ≤ 90 ∧ c.toLower.toNat = c.toNat + 32 := by
  unfold Char.toLower
  split
  · next h =>
    right
    obtain ⟨hlow, hhigh⟩ := h
    have hlow : 65 ≤ c.toNat := hlow
    have hhigh : c.toNat ≤ 90 := hhigh
    refine ⟨hlow, hhigh, ?_⟩
    show (c.val + 32).toNat = c.val.toNat + 32
    rw [UInt32.toNat_add]
    exact Nat.mod_eq_of_lt (by show c.toNat + 32 < _; omega)
  · exact .inl rfl

theorem toLower_toLower (c : Char) : c.toLower.toLower = c.toLower := by
  rcases toLower_cases c with h | ⟨hlow, hhigh, h⟩
  · rw [h, h]
  · rcases toLower_cases c.toLower with h' | ⟨hlow', hhigh', -⟩
    · exact h'
    · omega

/-- No letter is a blank. -/
theorem isBlank_eq_false {c : Char} (hlow : 65 ≤ c.toNat) (hhigh : c.toNat ≤ 122) :
    isBlank c = false := by
  simp only [isBlank, Bool.or_eq_false_iff, Bool.and_eq_false_iff, decide_eq_false_iff_not,
    beq_eq_false_iff_ne]
  omega

/-- Changing the case of a character makes no blank of it. -/
theorem isBlank_toLower (c : Char) : isBlank c.toLower = isBlank c := by
  rcases toLower_cases c with h | ⟨hlow, hhigh, h⟩
  · rw [h]
  · rw [isBlank_eq_false hlow (by omega), isBlank_eq_false (by omega) (by omega)]

/-! ## Trimming -/

theorem dropWhile_map_toLower (cs : List Char) :
    (cs.map Char.toLower).dropWhile isBlank = (cs.dropWhile isBlank).map Char.toLower := by
  induction cs with
  | nil => rfl
  | cons c cs ih =>
    rw [List.map_cons, List.dropWhile_cons, List.dropWhile_cons, isBlank_toLower, ih]
    split
    · rfl
    · rw [List.map_cons]

/-- A text can be trimmed before its letters are changed, or after it. -/
theorem trimChars_map_toLower (cs : List Char) :
    trimChars (cs.map Char.toLower) = (trimChars cs).map Char.toLower := by
  rw [trimChars, dropWhile_map_toLower, ← List.map_reverse, dropWhile_map_toLower,
    ← List.map_reverse, trimChars]

/-- Trimming does not depend on the blanks around a text. -/
theorem trimChars_of_around {core cs : List Char} (h : Around core cs) :
    trimChars cs = trimChars core := by
  obtain ⟨before, after, rfl, hbefore, hafter⟩ := h
  rw [trimChars, List.append_assoc, List.dropWhile_append_of_pos hbefore, trimChars]
  -- the blanks at the end are at the beginning of the reverse
  by_cases hall : ∀ c ∈ core, isBlank c = true
  · have hcore : core.dropWhile isBlank = [] := List.dropWhile_eq_nil_iff.2 hall
    have hboth : (core ++ after).dropWhile isBlank = [] :=
      List.dropWhile_eq_nil_iff.2 (List.forall_mem_append.2 ⟨hall, hafter⟩)
    rw [hcore, hboth]
  · have hne : core.dropWhile isBlank ≠ [] := fun hnil => hall (List.dropWhile_eq_nil_iff.1 hnil)
    have happend : (core ++ after).dropWhile isBlank = core.dropWhile isBlank ++ after := by
      rw [List.dropWhile_append]
      simp [hne]
    have hreverse : ∀ c ∈ after.reverse, isBlank c = true := fun c hc =>
      hafter c (List.mem_reverse.1 hc)
    rw [happend, List.reverse_append, List.dropWhile_append_of_pos hreverse]

/-- What is trimmed off is blank. -/
theorem around_trimChars (cs : List Char) : Around (trimChars cs) cs := by
  have hbegin := List.takeWhile_append_dropWhile (p := isBlank) (l := cs)
  have hend := List.takeWhile_append_dropWhile (p := isBlank) (l := (cs.dropWhile isBlank).reverse)
  refine ⟨cs.takeWhile isBlank, ((cs.dropWhile isBlank).reverse.takeWhile isBlank).reverse, ?_,
    fun c hc => List.mem_takeWhile_imp hc,
    fun c hc => List.mem_takeWhile_imp (List.mem_reverse.1 hc)⟩
  rw [List.append_assoc, trimChars, ← List.reverse_append, hend, List.reverse_reverse, hbegin]

/-! ## Normal forms -/

theorem toList_normalize (name : String) :
    (normalize name).toList = (trimChars name.toList).map Char.toLower := by
  rw [normalize, lower, trim, String.toList_ofList, String.toList_ofList]

/-- A normal form is its own. -/
theorem normalize_normalize (name : String) : normalize (normalize name) = normalize name := by
  rw [← String.toList_inj, toList_normalize, toList_normalize, trimChars_map_toLower,
    trimChars_trimChars, List.map_map]
  exact List.map_congr_left fun c _ => toLower_toLower c

/-- **Names are the same when their normal forms are.** -/
theorem sameName_iff {a b : String} : SameName a b ↔ normalize a = normalize b := by
  rw [← String.toList_inj, toList_normalize, toList_normalize]
  constructor
  · rintro ⟨core, core', ha, hb, hcore⟩
    rw [trimChars_of_around ha, trimChars_of_around hb, ← trimChars_map_toLower, hcore,
      trimChars_map_toLower]
  · intro h
    exact ⟨_, _, around_trimChars a.toList, around_trimChars b.toList, h⟩

end Appliance.Subscriptions
