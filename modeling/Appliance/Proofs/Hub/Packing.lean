import Appliance.Hub.Transcript
import Appliance.Proofs.Text.Parts

/-!
# Records in frames

Records that were read from a frame can be put into another frame and are read from it as
they were. So it does not matter that those that came with the hub's answer are put
together again before they are handled, and any records can be sent in one frame.

* `cut_eq_splitOn` — a frame is cut as lists are split.
* `IsRecord` — a text that a frame can carry.
* `isRecord_of_mem_split` — **what is read from a frame can be sent again.**
* `split_join` — **records that were put into a frame are read from it.**
* `reread_leftover?` — the records that came with the hub's answer, put together again.
* `greet_join` — an answer to the handshake with more records in its frame.
-/

namespace Appliance.Hub

/-! ## Cutting -/

/-- A frame is cut as lists are split. -/
theorem cut_eq_splitOn (cs : List Char) : cut cs = cs.splitOn separator := by
  induction cs with
  | nil => rfl
  | cons c cs ih =>
    obtain ⟨part, parts, hparts⟩ :=
      List.exists_cons_of_ne_nil (List.splitOn_ne_nil separator cs)
    rw [List.splitOn_cons_eq_if_modifyHead]
    simp only [cut, ih, hparts, List.modifyHead_cons, beq_iff_eq]

/-- What comes before the first separator is a part. -/
theorem cut_append_separator {r : List Char} (h : separator ∉ r) (rest : List Char) :
    cut (r ++ separator :: rest) = r :: cut rest := by
  rw [cut_eq_splitOn, cut_eq_splitOn, List.splitOn_append_cons_self_of_not_mem h]

/-- No part has a separator in it. -/
theorem separator_not_mem_of_mem_cut {cs part : List Char} (h : part ∈ cut cs) :
    separator ∉ part := by
  rw [cut_eq_splitOn] at h
  exact (Text.of_mem_splitOn h).1

/-! ## Records -/

/-- `IsRecord r`: the text `r` can be sent as a record. There is something in it, it has no
separator, and no blanks around it. -/
structure IsRecord (r : String) : Prop where
  nonempty : r.toList ≠ []
  whole : separator ∉ r.toList
  trimmed : Text.trimChars r.toList = r.toList

/-- **What is read from a frame can be sent again.** -/
theorem isRecord_of_mem_split {frame r : String} (h : r ∈ split frame) : IsRecord r := by
  obtain ⟨cs, hcs, rfl⟩ := List.mem_map.1 h
  obtain ⟨hcs, hne⟩ := List.mem_filter.1 hcs
  obtain ⟨part, hpart, rfl⟩ := List.mem_map.1 hcs
  refine ⟨?_, ?_, ?_⟩
  · simpa using hne
  · rw [String.toList_ofList]
    exact fun hmem => separator_not_mem_of_mem_cut hpart ((Text.trimChars_sublist part).subset hmem)
  · rw [String.toList_ofList, Text.trimChars_trimChars]

theorem toList_join_cons (r : String) (rs : List String) :
    (join (r :: rs)).toList = r.toList ++ separator :: (join rs).toList := by
  simp [join]

/-- **Records that were put into a frame are read from it.** -/
theorem split_join {rs : List String} (h : ∀ r ∈ rs, IsRecord r) : split (join rs) = rs := by
  induction rs with
  | nil => decide
  | cons r rs ih =>
    have hr : IsRecord r := h r List.mem_cons_self
    have hrest : split (join rs) = rs := ih fun r' hr' => h r' (List.mem_cons_of_mem _ hr')
    rw [split] at hrest ⊢
    rw [toList_join_cons, cut_append_separator hr.whole, List.map_cons, hr.trimmed,
      List.filter_cons_of_pos (by simpa using hr.nonempty), List.map_cons, String.ofList_toList,
      hrest]

/-- The records that came with the hub's answer are put together, and read again as they
were. -/
theorem reread_leftover? {pending : List String} (h : ∀ r ∈ pending, IsRecord r) :
    reread (leftover? pending) = pending := by
  have hsplit : split (join pending) = pending := split_join h
  simp only [leftover?, reread]
  split
  · rename_i hempty
    rw [hempty] at hsplit
    exact hsplit
  · exact hsplit

/-- An answer to the handshake stays one with other records in its frame. -/
theorem greet_join {answer : String} {pending : List String}
    (h : greet (.ok (.text answer)) = .opened pending) {rs : List String}
    (hrs : ∀ r ∈ rs, IsRecord r) :
    ∃ first, greet (.ok (.text (join (first :: rs)))) = .opened rs := by
  simp only [greet] at h
  split at h
  · cases h
  · rename_i first others hsplit
    have hfirst : IsRecord first :=
      isRecord_of_mem_split (hsplit ▸ List.mem_cons_self)
    refine ⟨first, ?_⟩
    split at h
    · rename_i hok
      have hrecords : split (join (first :: rs)) = first :: rs :=
        split_join (List.forall_mem_cons.2 ⟨hfirst, hrs⟩)
      simp only [greet, hrecords, hok]
    · cases h

end Appliance.Hub
