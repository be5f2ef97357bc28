/-!
# The digits of a number

* `mem_toDigits`   — each of them is the digit of a value below the base.
* `foldl_toDigits` — what takes digits into a number reads that number, as far as it is exact.
-/

namespace Appliance.Text

/-- The digits of a number are those of its base. -/
theorem mem_toDigits {b n : Nat} (hb : 1 < b) {c : Char} (h : c ∈ b.toDigits n) :
    ∃ d < b, c = d.digitChar := by
  induction n using Nat.strongRecOn with
  | ind n ih =>
    by_cases hn : n < b
    · rw [Nat.toDigits_of_lt_base hn] at h
      exact ⟨n, hn, List.mem_singleton.1 h⟩
    · rw [Nat.toDigits_of_base_le hb (by omega)] at h
      rcases List.mem_append.1 h with h | h
      · exact ih (n / b) (Nat.div_lt_self (by omega) hb) h
      · exact ⟨n % b, Nat.mod_lt n (by omega), List.mem_singleton.1 h⟩

theorem toList_toString (n : Nat) : (toString n).toList = Nat.toDigits 10 n := by
  rw [Nat.toString_eq_repr, Nat.repr_eq_ofList_toDigits, String.toList_ofList]

theorem isAlphanum_digitChar : ∀ d < 16, d.digitChar.isAlphanum = true := by decide

theorem value_digitChar : ∀ d < 10, d.digitChar.toNat - 48 = d := by decide

/-- The digits of a number are taken into that number by what is exact up to it. -/
theorem foldl_toDigits {f : Nat → Char → Nat} {n bound : Nat}
    (hf : ∀ m d, d < 10 → 10 * m + d ≤ bound → f m d.digitChar = 10 * m + d) (hn : n ≤ bound) :
    (Nat.toDigits 10 n).foldl f 0 = n := by
  induction n using Nat.strongRecOn with
  | ind n ih =>
    by_cases hsmall : n < 10
    · rw [Nat.toDigits_of_lt_base hsmall, List.foldl_cons, List.foldl_nil, hf 0 n hsmall (by omega)]
      omega
    · rw [Nat.toDigits_of_base_le (by decide) (by omega), List.foldl_append,
        ih (n / 10) (by omega) (by omega), List.foldl_cons, List.foldl_nil,
        hf (n / 10) (n % 10) (by omega) (by omega)]
      omega

end Appliance.Text
