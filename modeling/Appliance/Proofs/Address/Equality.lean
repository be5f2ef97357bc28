import Appliance.Proofs.Address.Written
import Mathlib.Data.List.DropRight

/-!
# When two addresses are equal

The form in which an address is shown, and the URLs of its services, leave out the slashes at the
end of its written form, and equality does not. So the addresses that reach the same endpoints
are those with one shown form, of which there is one for each number of slashes at the end, and
the shown form is read as the one of them with the fewest.

* `lastSlashes`, `chars_eq_stem` — the slashes at the end of the written form.
* `shown_eq_iff`, `eq_iff`       — which addresses have the same URLs, and which are equal.
* `dropLastSlashes_pathChars`    — which segments are shown.
* `read_shown`                   — what is shown is read as an address that is shown alike.
* **`address_equality_counts_slashes`** — all this together.
-/

namespace Appliance

open Appliance.Url

namespace Address

/-- How many slashes stand at the end of the written form. -/
def lastSlashes (a : Address) : Nat := (a.web.chars.rtakeWhile (· == '/')).length

/-- Whether the path of the address has no segment that is not empty. -/
def isRoot (a : Address) : Bool := a.web.path.all List.isEmpty

variable {s s' : String} {a b : Address}

/-! ## Shown forms -/

theorem dropLastSlashes_eq (cs : List Char) : dropLastSlashes cs = cs.rdropWhile (· == '/') := rfl

/-- The written form is the shown one, and slashes. -/
theorem chars_eq_stem (a : Address) :
    a.web.chars = a.stem ++ List.replicate a.lastSlashes '/' := by
  have hslashes : a.web.chars.rtakeWhile (· == '/') = List.replicate a.lastSlashes '/' :=
    List.eq_replicate_iff.2 ⟨rfl, fun c hc => by simpa using List.mem_rtakeWhile_imp hc⟩
  rw [← hslashes]
  exact List.rdropWhile_append_rtakeWhile.symm

/-- The number of slashes at the end is that by which the written form is longer. -/
theorem lastSlashes_eq {n : Nat} (h : a.web.chars = a.stem ++ List.replicate n '/') :
    a.lastSlashes = n := by
  have hlength := congrArg List.length (a.chars_eq_stem.symm.trans h)
  simpa using hlength

theorem shown_inj : a.shown = b.shown ↔ a.stem = b.stem := String.ofList_inj

/-- **Addresses that are shown alike have the same URLs**, and no others have. -/
theorem shown_eq_iff : a.shown = b.shown ↔ ∀ p, a.urlFor p = b.urlFor p := by
  rw [shown_inj]
  constructor
  · intro h p
    rw [urlFor, urlFor, h]
  · intro h
    exact List.append_cancel_right (String.ofList_inj.1 (h ""))

/-- **Addresses are equal if they are shown alike and end in the same number of slashes.** -/
theorem eq_iff (ha : read s = .ok a) (hb : read s' = .ok b) :
    a = b ↔ a.shown = b.shown ∧ a.lastSlashes = b.lastSlashes := by
  constructor
  · rintro rfl
    exact ⟨rfl, rfl⟩
  · rintro ⟨hshown, hslashes⟩
    refine text_injective ha hb (String.ofList_inj.2 ?_)
    rw [chars_eq_stem, chars_eq_stem b, shown_inj.1 hshown, hslashes]

/-! ## Shown paths -/

/-- The segments of a path without the empty ones at its end. -/
def shownPath (path : List (List Char)) : List (List Char) := path.rdropWhile List.isEmpty

/-- **The segments that are shown** are those up to the last that is not empty. -/
theorem dropLastSlashes_pathChars {path : List (List Char)} (h : ∀ s ∈ path, '/' ∉ s) :
    dropLastSlashes (Web.pathChars path) = Web.pathChars (shownPath path) := by
  induction path using List.reverseRecOn with
  | nil => rfl
  | append_singleton path s ih =>
    obtain ⟨hpath, hs⟩ := List.forall_mem_append.1 h
    have hs : '/' ∉ s := hs s (List.mem_singleton_self s)
    have hchars : Web.pathChars (path ++ [s]) = Web.pathChars path ++ '/' :: s := by
      simp [Web.pathChars]
    rcases List.eq_nil_or_concat s with rfl | ⟨front, last, rfl⟩
    · rw [hchars, shownPath, List.rdropWhile_concat_pos _ _ _ rfl, dropLastSlashes_eq,
        List.rdropWhile_concat_pos _ _ _ rfl]
      exact ih hpath
    · have hlast : last ≠ '/' := by
        rintro rfl
        simp at hs
      have hfront : Web.pathChars path ++ '/' :: front.concat last =
          (Web.pathChars path ++ '/' :: front) ++ [last] := by simp
      rw [shownPath, List.rdropWhile_concat_neg _ _ _ (by simp), hchars, hfront,
        dropLastSlashes_eq, List.rdropWhile_concat_neg _ _ _ (by simpa using hlast)]

theorem tidy_shownPath {path : List (List Char)} (h : ∀ s ∈ path, TidySegment s) :
    ∀ s ∈ shownPath path, TidySegment s := fun s hs =>
  h s ((List.rdropWhile_prefix _ _).subset hs)

/-- What is read from the segments that are shown is shown alike, and is written with no slash more
but for the one of an empty path. -/
theorem segments_shownPath {path : List (List Char)} (h : ∀ s ∈ path, TidySegment s) :
    shownPath (segments (Web.pathChars (shownPath path))) = shownPath path ∧
      Web.pathChars (segments (Web.pathChars (shownPath path))) =
        Web.pathChars (shownPath path) ++
          List.replicate (if path.all List.isEmpty then 1 else 0) '/' := by
  cases hempty : path.all List.isEmpty with
  | true =>
    have hnil : shownPath path = [] :=
      List.rdropWhile_eq_nil_iff.2 (List.all_eq_true.1 hempty)
    rw [hnil]
    decide
  | false =>
    have hne : shownPath path ≠ [] := fun hnil => by
      rw [List.all_eq_true.2 (List.rdropWhile_eq_nil_iff.1 hnil)] at hempty
      cases hempty
    rw [segments_pathChars (tidy_shownPath h) hne]
    exact ⟨List.rdropWhile_idempotent _ _, by simp⟩

/-- What is shown is the origin, and the segments that are shown. -/
theorem stem_eq_shownPath (h : read s = .ok a) :
    a.stem = a.web.origin ++ Web.pathChars (shownPath a.web.path) := by
  obtain ⟨cs, hread⟩ := exists_read h
  have hslash : ∀ s ∈ a.web.path, '/' ∉ s := fun s hs => ((tidy_path hread).2 s hs).slash
  rw [stem_eq (tidy_of_read h), dropLastSlashes_pathChars hslash]

/-- **What is shown is read as an address that is shown alike**, without slashes at its end but
for the one of an empty path. -/
theorem read_shown (h : read s = .ok a) : ∃ c, read a.shown = .ok c ∧ c.shown = a.shown ∧
    c.lastSlashes = if a.isRoot then 1 else 0 := by
  obtain ⟨cs, hread⟩ := exists_read h
  obtain ⟨-, htidy⟩ := tidy_path hread
  have hwritten := read_written (tidy_of_read h) (tidy_shownPath htidy)
  rw [← stem_eq_shownPath h] at hwritten
  obtain ⟨c, hc, horigin, hpath⟩ : ∃ c, read a.shown = .ok c ∧ c.web.origin = a.web.origin ∧
      c.web.path = segments (Web.pathChars (shownPath a.web.path)) := ⟨_, hwritten, rfl, rfl⟩
  obtain ⟨halike, hslashes⟩ := segments_shownPath htidy
  rw [← hpath] at halike hslashes
  have hstem : c.stem = a.stem := by
    rw [stem_eq_shownPath hc, stem_eq_shownPath h, horigin, halike]
  refine ⟨c, hc, shown_inj.2 hstem, lastSlashes_eq ?_⟩
  rw [hstem, stem_eq_shownPath h, Web.chars_eq, horigin, hslashes, List.append_assoc, isRoot]

end Address

/-- **Equality of addresses counts the slashes at their ends**, which nothing else does.  Two
addresses are shown alike exactly if they have the same URLs. They are equal exactly if besides
their written forms end in the same number of slashes. What is shown of an address is read as one
that is shown alike; and this is the address itself exactly if its written form ends in no slash,
or in one if its path is empty. -/
theorem address_equality_counts_slashes {s s' : String} {a b : Address}
    (ha : Address.read s = .ok a) (hb : Address.read s' = .ok b) :
    (a.shown = b.shown ↔ ∀ p, a.urlFor p = b.urlFor p) ∧
      (a = b ↔ a.shown = b.shown ∧ a.lastSlashes = b.lastSlashes) ∧
      (∃ c, Address.read a.shown = .ok c ∧ c.shown = a.shown) ∧
      (Address.read a.shown = .ok a ↔ a.lastSlashes = if a.isRoot then 1 else 0) := by
  obtain ⟨c, hc, hshown, hslashes⟩ := Address.read_shown ha
  refine ⟨Address.shown_eq_iff, Address.eq_iff ha hb, ⟨c, hc, hshown⟩, ?_⟩
  rw [hc, Except.ok.injEq, Address.eq_iff hc ha, hslashes, eq_comm (a := a.lastSlashes)]
  exact and_iff_right hshown

/-- Two addresses that differ in a slash at the end. -/
theorem address_equality_counts_slashes_api :
    ∃ a b, Address.read "https://[::1]/api" = .ok a ∧ Address.read "https://[::1]/api/" = .ok b ∧
      a ≠ b ∧ a.shown = b.shown ∧ (∀ p, a.urlFor p = b.urlFor p) ∧
      Address.read b.shown ≠ .ok b := by
  have hread : (Address.read "https://[::1]/api").toOption.map
      (fun a => (a.shown, a.lastSlashes)) = some ("https://[::1]/api", 0) := by decide +kernel
  have hread' : (Address.read "https://[::1]/api/").toOption.map
      (fun a => (a.shown, a.lastSlashes, a.isRoot)) = some ("https://[::1]/api", 1, false) := by
    decide +kernel
  cases ha : Address.read "https://[::1]/api" with
  | error f =>
    rw [ha] at hread
    cases hread
  | ok a =>
    cases hb : Address.read "https://[::1]/api/" with
    | error f =>
      rw [hb] at hread'
      cases hread'
    | ok b =>
      rw [ha] at hread
      rw [hb] at hread'
      obtain ⟨hshown, hslashes⟩ := Prod.mk.inj (Option.some.inj hread)
      obtain ⟨hshown', hrest⟩ := Prod.mk.inj (Option.some.inj hread')
      obtain ⟨hslashes', hroot⟩ := Prod.mk.inj hrest
      obtain ⟨hurls, hequal, -, -⟩ := address_equality_counts_slashes ha hb
      obtain ⟨-, -, -, hback⟩ := address_equality_counts_slashes hb ha
      have halike : a.shown = b.shown := hshown.trans hshown'.symm
      refine ⟨a, b, rfl, rfl, fun h => ?_, halike, hurls.1 halike, fun h => ?_⟩
      · have hsame := (hequal.1 h).2
        omega
      · have hnone := hback.1 h
        rw [hslashes', hroot] at hnone
        cases hnone

end Appliance
