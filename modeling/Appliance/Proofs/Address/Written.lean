import Appliance.Proofs.Address
import Appliance.Proofs.Json.Values
import Appliance.Proofs.Url.Path

/-!
# Addresses are read as they are written

However an address was given — with blanks around it, without a scheme, with user information, a
port, a path, a query or a fragment — its written form is read as the same address, and so is its
JSON text.

* `read_written`                   — what is read from an origin and tidy segments.
* `text_injective`                 — the written form determines the address.
* **`address_is_read_as_written`** — an address is read back from its written form and from its
  JSON text, and the written form has no query and no fragment.
-/

namespace Appliance

open Appliance.Url

/-! ## Texts that show -/

namespace Url

theorem isBlank_of_visible {c : Char} (h : Visible c) : Text.isBlank c = false := by
  obtain ⟨hlow, hhigh⟩ := h
  simp only [Text.isBlank, Bool.or_eq_false_iff, Bool.and_eq_false_iff, decide_eq_false_iff_not,
    beq_eq_false_iff_ne]
  omega

/-- Nothing is trimmed from a text that shows. -/
theorem trimChars_of_visible {cs : List Char} (h : ∀ c ∈ cs, Visible c) :
    Text.trimChars cs = cs := by
  have hkept : ∀ {cs : List Char}, (∀ c ∈ cs, Visible c) → cs.dropWhile Text.isBlank = cs := by
    intro cs h
    refine Text.dropWhile_isBlank_eq_self fun c hc => ?_
    exact isBlank_of_visible (h c (List.mem_of_head? hc))
  rw [Text.trimChars, hkept h, hkept fun c hc => h c (List.mem_reverse.1 hc), List.reverse_reverse]

end Url

namespace Address

variable {s : String} {a : Address}

/-! ## Written forms -/

/-- A text that begins with an origin has a scheme. -/
theorem withScheme_origin (w : Web) (rest : List Char) :
    withScheme (w.origin ++ rest) = w.origin ++ rest := by
  refine if_pos ?_
  rw [Web.origin, List.append_assoc, List.append_assoc]
  cases w.secure <;> simp [Web.scheme, containsChars]

/-- What is read from the origin of an address and tidy segments. -/
theorem read_written (ha : a.web.Tidy) {path : List (List Char)} (h : ∀ s ∈ path, TidySegment s) :
    read (String.ofList (a.web.origin ++ Web.pathChars path)) =
      .ok ⟨{ a.web with path := segments (Web.pathChars path) }, a.admissible⟩ := by
  have hvisible : ∀ c ∈ a.web.origin ++ Web.pathChars path, Visible c :=
    List.forall_mem_append.2 ⟨ha.visible_origin, visible_pathChars h⟩
  have hne : (a.web.origin ++ Web.pathChars path).isEmpty = false := by simp [Web.origin]
  have hadmissible : isAdmissible { a.web with path := segments (Web.pathChars path) } = true :=
    a.admissible
  simp only [read, readTrimmed, String.toList_ofList, trimChars_of_visible hvisible, hne,
    withScheme_origin, read_pathChars ha h, hadmissible]
  simp

/-- An address that is read is read back from its written form. -/
theorem read_text (h : read s = .ok a) : read a.text = .ok a := by
  obtain ⟨cs, hread⟩ := exists_read h
  obtain ⟨hne, hpath⟩ := tidy_path hread
  have hwritten := read_written (tidy_of_read h) hpath
  rw [segments_pathChars hpath hne, ← Web.chars_eq] at hwritten
  exact hwritten

/-- The written form determines the address. -/
theorem text_injective {s' : String} {b : Address} (ha : read s = .ok a) (hb : read s' = .ok b)
    (h : a.text = b.text) : a = b := by
  have hwritten := read_text ha
  rw [h, read_text hb] at hwritten
  exact (Except.ok.inj hwritten).symm

/-- The written form of an address has no query and no fragment. -/
theorem plain_text (h : read s = .ok a) : ∀ c ∈ a.text.toList, c ≠ '?' ∧ c ≠ '#' := by
  obtain ⟨cs, hread⟩ := exists_read h
  rw [text, Web.text, String.toList_ofList, Web.chars_eq]
  exact List.forall_mem_append.2 ⟨fun c hc => ((tidy_of_read h).kept_origin c hc).2,
    plain_pathChars (tidy_path hread).2⟩

/-- An address is read from its JSON text as from its written form. -/
theorem ofJson?_json (a : Address) : ofJson? a.json = (read a.text).toOption := by
  rw [ofJson?, json, Json.Tree.ofText?_stringText, Option.bind_some, Json.Tree.text?_pieces,
    Option.bind_some]

end Address

/-- **An address is read as it is written.**  Whatever text an address was read from, its written
form is read as this address, and has no query and no fragment; and the address is read back from
its JSON text. -/
theorem address_is_read_as_written {s : String} {a : Address} (h : Address.read s = .ok a) :
    Address.read a.text = .ok a ∧ (∀ c ∈ a.text.toList, c ≠ '?' ∧ c ≠ '#') ∧
      Address.ofJson? a.json = some a := by
  have hread := Address.read_text h
  refine ⟨hread, Address.plain_text h, ?_⟩
  rw [Address.ofJson?_json, hread]
  rfl

/-- An address with user information, a port, dots in its path, a query and a fragment, in capital
letters and between blanks. -/
theorem address_is_read_as_written_roundabout :
    ∃ a, Address.read " HTTPS://me:\"x\"@[2001:DB8:0::1]:08443\\a b//%2E/c/../é?q=/#f\n" = .ok a ∧
      a.text = "https://me:%22x%22@[2001:db8::1]:8443/a%20b//%C3%A9" ∧
      Address.read "https://me:%22x%22@[2001:db8::1]:8443/a%20b//%C3%A9" = .ok a ∧
      Address.ofJson? a.json = some a := by
  have htext : (Address.read
      " HTTPS://me:\"x\"@[2001:DB8:0::1]:08443\\a b//%2E/c/../é?q=/#f\n").toOption.map
        Address.text = some "https://me:%22x%22@[2001:db8::1]:8443/a%20b//%C3%A9" := by
    decide +kernel
  cases ha : Address.read
      " HTTPS://me:\"x\"@[2001:DB8:0::1]:08443\\a b//%2E/c/../é?q=/#f\n" with
  | error f =>
    rw [ha] at htext
    cases htext
  | ok a =>
    rw [ha] at htext
    have htext : a.text = "https://me:%22x%22@[2001:db8::1]:8443/a%20b//%C3%A9" :=
      Option.some.inj htext
    obtain ⟨hread, -, hjson⟩ := address_is_read_as_written ha
    rw [htext] at hread
    exact ⟨a, rfl, htext, hread, hjson⟩

end Appliance
