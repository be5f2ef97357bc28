import Appliance.Proofs.Text.Digits
import Appliance.Proofs.Text.Parts
import Appliance.Url.Host
import Mathlib.Data.Bool.AllAny

/-!
# What the written form of a host holds

A name in ASCII form holds letters, digits, dashes and other plain characters, also where a
label is written in punycode; a number is written with digits and dots, or with hexadecimal
digits and colons in brackets.

* `Visible`, `Plain`             — characters that show; those that end and divide nothing.
* `Domain.Punycode.mem_encode`   — what punycode writes.
* `Domain.plain_of_toAscii?`     — the ASCII form of a name is plain.
* **`host_kinds`**               — the written form of a host is plain, or stands in brackets.
-/

namespace Appliance.Url

open Appliance.Text

/-! ## Characters -/

/-- `Visible c`: the character is of ASCII, and no blank and no control. -/
def Visible (c : Char) : Prop := 0x20 < c.toNat ∧ c.toNat < 0x7F

instance (c : Char) : Decidable (Visible c) := inferInstanceAs (Decidable (_ ∧ _))

/-- `Plain c`: the character neither ends an authority nor divides it, and is not left out. -/
def Plain (c : Char) : Prop := Visible c ∧ c ∉ "%#/:<>?@[\\]^|".toList

instance (c : Char) : Decidable (Plain c) := inferInstanceAs (Decidable (_ ∧ _))

/-- A character of ASCII that a label may hold is plain. -/
theorem plain_of_isDenied {c : Char} (h : Domain.isDenied c = false) (hcode : c.toNat < 0x80) :
    Plain c := by
  simp only [Domain.isDenied, Bool.or_eq_false_iff, decide_eq_false_iff_not,
    beq_eq_false_iff_ne] at h
  obtain ⟨⟨hlow, hdelete⟩, hmarks⟩ := h
  exact ⟨⟨by omega, by omega⟩, by simpa using hmarks⟩

/-- Letters and digits are plain. -/
theorem plain_of_isAlphanum {c : Char} (h : c.isAlphanum = true) : Plain c := by
  have hrange : ((65 ≤ c.toNat ∧ c.toNat ≤ 90) ∨ 97 ≤ c.toNat ∧ c.toNat ≤ 122) ∨
      48 ≤ c.toNat ∧ c.toNat ≤ 57 := by
    rcases Bool.or_eq_true_iff.1 h with hletter | hdigit
    · rcases Bool.or_eq_true_iff.1 hletter with hupper | hlower
      · exact .inl (.inl (of_decide_eq_true hupper))
      · obtain ⟨hlow, hhigh⟩ := Bool.and_eq_true_iff.1 hlower
        exact .inl (.inr ⟨of_decide_eq_true hlow, of_decide_eq_true hhigh⟩)
    · obtain ⟨hlow, hhigh⟩ := Bool.and_eq_true_iff.1 hdigit
      exact .inr ⟨of_decide_eq_true hlow, of_decide_eq_true hhigh⟩
  refine ⟨⟨by omega, by omega⟩, fun hmem => ?_⟩
  have hcode : c.toNat ∈ "%#/:<>?@[\\]^|".toList.map Char.toNat := List.mem_map_of_mem hmem
  simp at hcode
  omega

/-! ## Numbers -/

theorem plain_ipv4 (n : Nat) : ∀ c ∈ Ipv4.chars n, Plain c := by
  intro c hc
  rcases mem_intercalate hc with hc | ⟨part, hpart, hc⟩
  · rw [List.mem_singleton.1 hc]
    decide
  · obtain ⟨k, -, rfl⟩ := List.mem_map.1 hpart
    rw [toList_toString] at hc
    obtain ⟨d, hd, rfl⟩ := mem_toDigits (by decide) hc
    exact plain_of_isAlphanum (isAlphanum_digitChar d (by omega))

theorem ipv4_ne_nil (n : Nat) : Ipv4.chars n ≠ [] := by
  simp [Ipv4.chars, Ipv4.octetsOf, List.intercalate]

/-- What stands between the brackets of a host. -/
theorem mem_ipv6 {groups : List Nat} : ∀ c ∈ Ipv6.chars groups, c.isAlphanum = true ∨ c = ':' := by
  have hjoined : ∀ gs c, c ∈ Ipv6.joined gs → c.isAlphanum = true ∨ c = ':' := by
    intro gs c hc
    rcases mem_intercalate hc with hc | ⟨part, hpart, hc⟩
    · exact .inr (List.mem_singleton.1 hc)
    · obtain ⟨k, -, rfl⟩ := List.mem_map.1 hpart
      obtain ⟨d, hd, rfl⟩ := mem_toDigits (by decide) hc
      exact .inl (isAlphanum_digitChar d hd)
  intro c hc
  unfold Ipv6.chars at hc
  obtain ⟨start, count⟩ := Ipv6.longestRun 0 groups
  simp only at hc
  split at hc
  · rcases List.mem_append.1 hc with hc | hc
    · rcases List.mem_append.1 hc with hc | hc
      · exact hjoined _ c hc
      · exact .inr (by simpa using hc)
    · exact hjoined _ c hc
  · exact hjoined _ c hc

/-! ## Punycode -/

namespace Domain

namespace Punycode

theorem isAlphanum_digit : ∀ n < 36, (digit n).isAlphanum = true := by decide

theorem isAlphanum_digits (bias position q : Nat) :
    ∀ c ∈ digits bias position q, c.isAlphanum = true := by
  induction position, q using digits.induct bias with
  | case1 position q h =>
    intro c hc
    have ht := (threshold_bounds position bias).2
    rw [digits, dif_pos h] at hc
    rw [List.mem_singleton.1 hc]
    exact isAlphanum_digit q (by omega)
  | case2 position q h t ih =>
    intro c hc
    obtain ⟨hlow, hhigh⟩ := threshold_bounds position bias
    rw [digits, dif_neg h] at hc
    rcases List.mem_cons.1 hc with rfl | hc
    · refine isAlphanum_digit _ ?_
      have hmod := Nat.mod_lt (q - threshold position bias)
        (show 36 - threshold position bias > 0 by omega)
      omega
    · exact ih c hc

/-- What is written while a label is passed are digits. -/
theorem isAlphanum_foldl_pass (n : Nat) (label : List Char) (state : List Char × Writer)
    (h : ∀ c ∈ state.1, c.isAlphanum = true) :
    ∀ c ∈ (label.foldl (pass n) state).1, c.isAlphanum = true := by
  induction label generalizing state with
  | nil => exact h
  | cons x rest ih =>
    refine ih _ fun c hc => ?_
    unfold pass at hc
    split at hc
    next out w =>
    split at hc
    · exact h c hc
    · split at hc
      · rcases List.mem_append.1 hc with hc | hc
        · exact h c hc
        · exact isAlphanum_digits _ _ _ c hc
      · exact h c hc

theorem isAlphanum_insertAll (label : List Char) (codes : List Nat) (previous : Nat)
    (state : List Char × Writer) (h : ∀ c ∈ state.1, c.isAlphanum = true) :
    ∀ c ∈ insertAll label codes previous state, c.isAlphanum = true := by
  induction codes generalizing previous state with
  | nil => exact h
  | cons n rest ih =>
    rw [insertAll]
    exact ih (n + 1) _ (isAlphanum_foldl_pass n label _ h)

/-- What is written for a label: its own characters of ASCII, dashes and digits. -/
theorem mem_encode {label : List Char} {c : Char} (h : c ∈ encode label) :
    (c ∈ label ∧ c.toNat < 0x80) ∨ c = '-' ∨ c.isAlphanum = true := by
  unfold encode at h
  rcases List.mem_append.1 h with h | h
  · split at h
    · cases h
    · rcases List.mem_append.1 h with h | h
      · obtain ⟨hc, hcode⟩ := List.mem_filter.1 h
        exact .inl ⟨hc, of_decide_eq_true hcode⟩
      · exact .inr (.inl (List.mem_singleton.1 h))
  · exact .inr (.inr (isAlphanum_insertAll label _ _ _ (by simp) c h))

end Punycode

/-! ## Domain names -/

theorem plain_asciiLabel {label : List Char} (h : isWellFormed label = true) :
    ∀ c ∈ asciiLabel label, Plain c := by
  have hlabel : ∀ c ∈ label, c.toNat < 0x80 → Plain c := by
    intro c hc
    simp only [isWellFormed, Bool.and_eq_true, List.all_eq_true] at h
    have hchar := h.1.1.2 c hc
    simp only [Bool.not_eq_true'] at hchar
    exact plain_of_isDenied hchar.1.2
  intro c hc
  unfold asciiLabel at hc
  split at hc
  · next hascii =>
    exact hlabel c hc (of_decide_eq_true (List.all_eq_true.1 hascii c hc))
  · rcases List.mem_append.1 hc with hc | hc
    · have hmark : ∀ c ∈ encodedMark, Plain c := List.all_iff_forall_prop.1 (by decide)
      exact hmark c hc
    · rcases Punycode.mem_encode hc with ⟨hc, hcode⟩ | rfl | hc
      · exact hlabel c hc hcode
      · decide
      · exact plain_of_isAlphanum hc

/-- The ASCII form of a name holds plain characters. -/
theorem plain_of_toAscii? {cs ascii : List Char} (h : toAscii? cs = some ascii) :
    ∀ c ∈ ascii, Plain c := by
  obtain ⟨_, -, h⟩ := Option.bind_eq_some_iff.1 h
  obtain ⟨plain, -, h⟩ := Option.bind_eq_some_iff.1 h
  obtain ⟨_, hwell, h⟩ := Option.bind_eq_some_iff.1 h
  obtain ⟨_, -, h⟩ := Option.bind_eq_some_iff.1 h
  obtain rfl : joinLabels (plain.map asciiLabel) = ascii := Option.some.inj h
  intro c hc
  rcases mem_intercalate hc with hc | ⟨part, hpart, hc⟩
  · rw [List.mem_singleton.1 hc]
    decide
  · obtain ⟨label, hlabel, rfl⟩ := List.mem_map.1 hpart
    have hall : plain.all isWellFormed = true := by
      by_contra hnot
      rw [Bool.not_eq_true] at hnot
      rw [hnot] at hwell
      cases hwell
    exact plain_asciiLabel (List.all_eq_true.1 hall label hlabel) c hc

end Domain

/-! ## Hosts -/

/-- A host that is read as a name has one. -/
theorem chars_ne_nil_of_read {cs : List Char} {d : Domain}
    (h : HostForm.read cs = .ok (.domain d)) :
    d.chars ≠ [] := by
  unfold HostForm.read at h
  split at h
  · split at h
    · split at h <;> cases h
    · cases h
  · split at h
    · cases h
    · split at h
      · cases h
      · next hempty =>
        split at h
        · split at h <;> cases h
        · cases h
          simpa using hempty

/-- The written form of a host is plain, or stands in brackets. -/
theorem host_kinds (h : Host) :
    (∀ c ∈ h.chars, Plain c) ∧ h.chars ≠ [] ∨
      ∃ inner, h.chars = '[' :: inner ++ [']'] ∧ ∀ c ∈ inner, c.isAlphanum = true ∨ c = ':' := by
  have hread := h.readForm_chars
  unfold Host.chars at hread ⊢
  cases hform : h.form with
  | domain d =>
    rw [hform] at hread
    exact .inl ⟨Domain.plain_of_toAscii? d.fixed, chars_ne_nil_of_read hread⟩
  | ipv4 n => exact .inl ⟨plain_ipv4 n, ipv4_ne_nil n⟩
  | ipv6 groups => exact .inr ⟨Ipv6.chars groups, rfl, mem_ipv6⟩

end Appliance.Url
