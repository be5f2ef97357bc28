import Appliance.Proofs.Url.Web

/-!
# Paths are read as they are written

A path is read as segments, each after a slash. They are escaped, none of them holds a slash, and
those that lead nowhere or up have been followed. Such segments are read again as they are
written, so the written form of an address is read as this address.

* `TidySegment`, `tidy_segments` — the segments that are read are tidy.
* `segments_pathChars`           — tidy segments are read as they are written.
* `read_pathChars`               — what is read from the origin of an address and tidy segments.
* **`read_chars`**               — an address that is read is read back from its written form.
-/

namespace Appliance.Url

open Appliance.Text

/-! ## Segments -/

/-- `TidyPart s`: the segment `s` is escaped, and holds no slash of either kind. -/
structure TidyPart (s : List Char) : Prop where
  kept : ∀ c ∈ s, Percent.mustEscape Percent.pathSet c = false
  slash : '/' ∉ s
  backslash : '\\' ∉ s

/-- `TidySegment s`: besides, `s` leads neither nowhere nor up. -/
structure TidySegment (s : List Char) : Prop extends TidyPart s where
  dot : isDot s = false
  doubleDot : isDoubleDot s = false

theorem tidySegment_nil : TidySegment [] where
  kept := by simp
  slash := by simp
  backslash := by simp
  dot := by decide
  doubleDot := by decide

/-- A path is cut as lists are split. -/
theorem cutAt_eq_splitOn (mark : Char) (cs : List Char) : cutAt mark cs = cs.splitOn mark := by
  induction cs with
  | nil => rfl
  | cons c cs ih =>
    obtain ⟨part, parts, hparts⟩ := List.exists_cons_of_ne_nil (List.splitOn_ne_nil mark cs)
    rw [List.splitOn_cons_eq_if_modifyHead]
    simp only [cutAt, ih, hparts, List.modifyHead_cons, beq_iff_eq]

/-- The parts of a path are tidy, once they are escaped. -/
theorem tidyPart_of_mem_cutPath {inner part : List Char} (h : part ∈ cutPath inner) :
    TidyPart (Percent.escape Percent.pathSet part) := by
  rw [cutPath, cutAt_eq_splitOn] at h
  obtain ⟨hslash, hsubset⟩ := of_mem_splitOn h
  have hbackslash : '\\' ∉ part := by
    intro hc
    obtain ⟨x, -, hx⟩ := List.mem_map.1 (hsubset hc)
    split at hx
    · cases hx
    · next hne => exact hne hx
  have hmark : ∀ c ∈ Percent.escapeMarks, c ≠ '/' ∧ c ≠ '\\' :=
    List.all_iff_forall_prop.1 (by decide)
  refine ⟨Percent.mustEscape_escape (List.all_iff_forall_prop.1 (by decide)) part,
    fun hc => ?_, fun hc => ?_⟩
  · rcases Percent.mem_escape hc with ⟨hc, -⟩ | hc
    · exact hslash hc
    · exact (hmark _ hc).1 rfl
  · rcases Percent.mem_escape hc with ⟨hc, -⟩ | hc
    · exact hbackslash hc
    · exact (hmark _ hc).2 rfl

/-! ## Following -/

theorem up_subset (passed : List (List Char)) : up passed ⊆ passed := by
  cases passed with
  | nil => exact List.Subset.refl _
  | cons s rest =>
    rw [up]
    split
    · exact List.Subset.refl _
    · exact List.subset_cons_self s rest

/-- Segments that are tidy but for leading nowhere or up are tidy once they are followed. -/
theorem tidy_follow {passed rest : List (List Char)} (hpassed : ∀ s ∈ passed, TidySegment s)
    (hrest : ∀ s ∈ rest, TidyPart s) : ∀ s ∈ follow passed rest, TidySegment s := by
  have hup : ∀ {passed : List (List Char)}, (∀ s ∈ passed, TidySegment s) →
      ∀ s ∈ up passed, TidySegment s := fun h s hs => h s (up_subset _ hs)
  have hcons : ∀ {s passed}, TidySegment s → (∀ s ∈ passed, TidySegment s) →
      ∀ x ∈ (s :: passed).reverse, TidySegment x := fun hs hpassed x hx =>
    List.forall_mem_cons.2 ⟨hs, hpassed⟩ x (List.mem_reverse.1 hx)
  induction passed, rest using follow.induct with
  | case1 passed => exact fun s hs => hpassed s (List.mem_reverse.1 hs)
  | case2 passed s hdouble =>
    rw [follow, if_pos hdouble]
    exact hcons tidySegment_nil (hup hpassed)
  | case3 passed s hdouble hdot =>
    rw [follow, if_neg hdouble, if_pos hdot]
    exact hcons tidySegment_nil hpassed
  | case4 passed s hdouble hdot =>
    rw [follow, if_neg hdouble, if_neg hdot]
    exact hcons ⟨hrest s (List.mem_singleton_self s), by simpa using hdot, by simpa using hdouble⟩
      hpassed
  | case5 passed s rest hne hdouble ih =>
    rw [follow, if_pos hdouble]
    · exact ih (hup hpassed) (List.forall_mem_cons.1 hrest).2
    · exact hne
  | case6 passed s rest hne hdouble hdot ih =>
    rw [follow, if_neg hdouble, if_pos hdot]
    · exact ih hpassed (List.forall_mem_cons.1 hrest).2
    · exact hne
  | case7 passed s rest hne hdouble hdot ih =>
    rw [follow, if_neg hdouble, if_neg hdot]
    · obtain ⟨hs, hrest⟩ := List.forall_mem_cons.1 hrest
      exact ih (List.forall_mem_cons.2 ⟨⟨hs, by simpa using hdot, by simpa using hdouble⟩, hpassed⟩)
        hrest
    · exact hne

/-- There is always a last segment. -/
theorem follow_ne_nil {passed rest : List (List Char)} (h : rest ≠ []) :
    follow passed rest ≠ [] := by
  induction passed, rest using follow.induct with
  | case1 passed => exact absurd rfl h
  | case2 passed s hdouble => simp [follow, hdouble]
  | case3 passed s hdouble hdot => simp [follow, hdouble, hdot]
  | case4 passed s hdouble hdot => simp [follow, hdouble, hdot]
  | case5 passed s rest hne hdouble ih =>
    rw [follow, if_pos hdouble]
    · exact ih hne
    · exact hne
  | case6 passed s rest hne hdouble hdot ih =>
    rw [follow, if_neg hdouble, if_pos hdot]
    · exact ih hne
    · exact hne
  | case7 passed s rest hne hdouble hdot ih =>
    rw [follow, if_neg hdouble, if_neg hdot]
    · exact ih hne
    · exact hne

/-- Segments that lead neither nowhere nor up are all passed. -/
theorem follow_eq {passed rest : List (List Char)}
    (h : ∀ s ∈ rest, isDot s = false ∧ isDoubleDot s = false) :
    follow passed rest = passed.reverse ++ rest := by
  induction rest generalizing passed with
  | nil => simp [follow]
  | cons s rest ih =>
    obtain ⟨⟨hdot, hdouble⟩, hrest⟩ := List.forall_mem_cons.1 h
    cases rest with
    | nil => simp [follow, hdot, hdouble]
    | cons s' rest =>
      have hpassed : follow (s :: passed) (s' :: rest) = (s :: passed).reverse ++ s' :: rest :=
        ih hrest
      simp [follow, hdot, hdouble, hpassed]

/-! ## Paths -/

/-- The segments that are read are tidy, and there is one at least. -/
theorem tidy_segments (rest : List Char) :
    segments rest ≠ [] ∧ ∀ s ∈ segments rest, TidySegment s := by
  unfold segments
  refine ⟨follow_ne_nil ?_, tidy_follow (by simp) fun s hs => ?_⟩
  · rw [cutPath, cutAt_eq_splitOn]
    simp
  · obtain ⟨part, hpart, rfl⟩ := List.mem_map.1 hs
    exact tidyPart_of_mem_cutPath hpart

/-- A path is written as a slash, and the segments with slashes between them. -/
theorem pathChars_eq {path : List (List Char)} (h : path ≠ []) :
    Web.pathChars path = '/' :: ['/'].intercalate path := by
  induction path with
  | nil => exact absurd rfl h
  | cons s path ih =>
    cases path with
    | nil => simp [Web.pathChars, List.intercalate]
    | cons s' path =>
      have hrest := ih (List.cons_ne_nil s' path)
      rw [Web.pathChars, List.flatMap_cons, ← Web.pathChars, hrest, List.intercalate_cons_cons]
      simp

section

variable {path : List (List Char)} (h : ∀ s ∈ path, TidySegment s)
include h

/-- Nothing in a written path needs to be escaped. -/
theorem kept_pathChars : ∀ c ∈ Web.pathChars path,
    Percent.mustEscape Percent.pathSet c = false := by
  intro c hc
  obtain ⟨s, hs, hc⟩ := List.mem_flatMap.1 hc
  rcases List.mem_cons.1 hc with rfl | hc
  · decide
  · exact (h s hs).kept c hc

theorem visible_pathChars : ∀ c ∈ Web.pathChars path, Visible c := fun c hc =>
  Percent.visible_of_kept (by decide) (kept_pathChars h c hc)

/-- A written path has no query and no fragment. -/
theorem plain_pathChars : ∀ c ∈ Web.pathChars path, c ≠ '?' ∧ c ≠ '#' := by
  intro c hc
  have hkept := kept_pathChars h c hc
  refine ⟨?_, ?_⟩ <;> rintro rfl <;> revert hkept <;> decide

/-- **Tidy segments are read as they are written.** -/
theorem segments_pathChars (hne : path ≠ []) : segments (Web.pathChars path) = path := by
  have hwhole : (Web.pathChars path).takeWhile (fun c => c != '?' && c != '#') =
      '/' :: ['/'].intercalate path := by
    rw [← pathChars_eq hne, List.takeWhile_eq_self_iff]
    intro c hc
    simpa using plain_pathChars h c hc
  have hbackslash : ∀ c ∈ ['/'].intercalate path, (if c = '\\' then '/' else c) = c := by
    intro c hc
    refine if_neg ?_
    rintro rfl
    rcases mem_intercalate hc with hc | ⟨s, hs, hc⟩
    · cases List.mem_singleton.1 hc
    · exact (h s hs).backslash hc
  have hcut : cutPath (['/'].intercalate path) = path := by
    rw [cutPath, List.map_congr_left hbackslash, List.map_id', cutAt_eq_splitOn]
    exact List.splitOn_intercalate '/' (fun s hs => (h s hs).slash) hne
  have hescape : path.map (Percent.escape Percent.pathSet) = path := by
    rw [List.map_congr_left fun s hs => Percent.escape_eq_self (h s hs).kept, List.map_id']
  have hslash : isSlash '/' = true := rfl
  simp only [segments, hwhole, hslash, if_true, hcut, hescape]
  exact follow_eq fun s hs => ⟨(h s hs).dot, (h s hs).doubleDot⟩

end

/-! ## Addresses -/

/-- The path of an address that is read is tidy. -/
theorem tidy_path {cs : List Char} {w : Web} (h : read cs = .ok (.web w)) :
    w.path ≠ [] ∧ ∀ s ∈ w.path, TidySegment s := by
  obtain ⟨secure, rest, hread⟩ := exists_read h
  obtain ⟨rest', hpath⟩ := Web.exists_path hread
  rw [hpath]
  exact tidy_segments rest'

/-- What an address is read as, from its origin and tidy segments. -/
theorem read_pathChars {w : Web} (hw : w.Tidy) {path : List (List Char)}
    (h : ∀ s ∈ path, TidySegment s) :
    read (w.origin ++ Web.pathChars path) =
      .ok (.web { w with path := segments (Web.pathChars path) }) := by
  have hvisible : ∀ c ∈ w.origin ++ Web.pathChars path, Visible c :=
    List.forall_mem_append.2 ⟨hw.visible_origin, visible_pathChars h⟩
  exact read_of_strip hw (strip_eq_self hvisible) (Web.opens_pathChars path)

/-- **An address that is read is read back from its written form.** -/
theorem read_chars {cs : List Char} {w : Web} (h : read cs = .ok (.web w)) :
    read w.chars = .ok (.web w) := by
  obtain ⟨hne, hpath⟩ := tidy_path h
  rw [Web.chars_eq, read_pathChars (tidy_of_read h) hpath, segments_pathChars hpath hne]

end Appliance.Url
