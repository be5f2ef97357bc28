import Mathlib.Data.List.Basic

/-!
# The parts of a text

A text is split at a mark, and parts are joined to a text with marks between them.

* `of_mem_splitOn`  — a part holds the mark no more, and nothing that is not in the text.
* `mem_intercalate` — a joined text holds what its parts hold, and the marks.
-/

namespace Appliance.Text

/-- A part of a text holds the mark no more, and nothing that is not in the text. -/
theorem of_mem_splitOn {mark : Char} {cs part : List Char} (h : part ∈ cs.splitOn mark) :
    mark ∉ part ∧ part ⊆ cs := by
  induction cs generalizing part with
  | nil =>
    rw [List.splitOn_nil, List.mem_singleton] at h
    simp [h]
  | cons c cs ih =>
    obtain ⟨first, parts, hparts⟩ := List.exists_cons_of_ne_nil (List.splitOn_ne_nil mark cs)
    rw [hparts] at ih
    have hkept : ∀ part ∈ first :: parts, mark ∉ part ∧ part ⊆ c :: cs := fun part hpart =>
      ⟨(ih hpart).1, List.subset_cons_of_subset _ (ih hpart).2⟩
    rw [List.splitOn_cons_eq_if_modifyHead, hparts] at h
    split at h
    · rcases List.mem_cons.1 h with rfl | h
      · simp
      · exact hkept part h
    · next hc =>
      rcases List.mem_cons.1 h with rfl | h
      · obtain ⟨hmark, hfirst⟩ := ih (List.mem_cons_self ..)
        refine ⟨?_, List.cons_subset_cons c hfirst⟩
        rw [List.mem_cons, not_or]
        exact ⟨fun heq => hc (by simp [heq]), hmark⟩
      · exact hkept part (List.mem_cons_of_mem _ h)

/-- The characters of a joined text come from its parts, or are the separator. -/
theorem mem_intercalate {parts : List (List Char)} {sep : List Char} {c : Char}
    (h : c ∈ sep.intercalate parts) : c ∈ sep ∨ ∃ part ∈ parts, c ∈ part := by
  induction parts with
  | nil => simp [List.intercalate] at h
  | cons part rest ih =>
    cases rest with
    | nil =>
      right
      exact ⟨part, List.mem_cons_self, by simpa [List.intercalate] using h⟩
    | cons next rest =>
      have hcons : c ∈ part ++ (sep ++ sep.intercalate (next :: rest)) := by
        simpa [List.intercalate] using h
      rcases List.mem_append.1 hcons with h | h
      · exact .inr ⟨part, List.mem_cons_self, h⟩
      · rcases List.mem_append.1 h with h | h
        · exact .inl h
        · rcases ih h with h | ⟨q, hq, hc⟩
          · exact .inl h
          · exact .inr ⟨q, List.mem_cons_of_mem _ hq, hc⟩

end Appliance.Text
