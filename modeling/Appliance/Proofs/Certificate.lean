import Appliance.Certificate
import Appliance.Proofs.Files

/-!
# Thumbprints are canonical, and lead to no other file

A thumbprint is read from any text and used as the name of a file. Its digits are all that is
left of the text, so two ways to write it give the same one, and no text gives a name that leads
out of the folder in which certificates are kept.

A second file is asked for where the system says that the first is missing. That is not the same
as that there is no such file: where its name is longer than names may be, the system says that
instead, and the search ends.

* `Thumbprint.read_eq_ok_iff`: what a text is read as is its normal form.
* `Certificate.Store.asked_search`: the files that the search for a certificate asks for.
* `Certificate.Store.find_gather`: a program that reads these files finds what the search finds.
* **`Certificate.thumbprints_are_canonical_and_confined`**: the two files that a thumbprint
  stands for.
* `Certificate.overlong_thumbprint_ends_search`: a thumbprint of 252 digits.
-/

namespace Appliance

/-! ## Thumbprints -/

/-- A hexadecimal digit in either case. -/
def IsHexDigit (c : Char) : Prop :=
  '0' ≤ c ∧ c ≤ '9' ∨ 'a' ≤ c ∧ c ≤ 'f' ∨ 'A' ≤ c ∧ c ≤ 'F'

namespace Thumbprint

open Text

/-- The characters of a text without its white space. -/
def unspaced (s : String) : List Char := s.toList.filter fun c => !isBlank c

theorem toList_normalize (s : String) : (normalize s).toList = (unspaced s).map Char.toUpper := by
  simp [normalize, upper, removeBlanks, unspaced]

theorem isThumbprintDigit_iff (c : Char) : isThumbprintDigit c = true ↔
    48 ≤ c.toNat ∧ c.toNat ≤ 57 ∨ 65 ≤ c.toNat ∧ c.toNat ≤ 70 := by
  simp only [isThumbprintDigit, Bool.or_eq_true, Bool.and_eq_true, decide_eq_true_eq]
  rfl

theorem isHexDigit_iff (c : Char) : IsHexDigit c ↔ 48 ≤ c.toNat ∧ c.toNat ≤ 57 ∨
    97 ≤ c.toNat ∧ c.toNat ≤ 102 ∨ 65 ≤ c.toNat ∧ c.toNat ≤ 70 := Iff.rfl

/-- Only the letters from `a` to `z` have another form in upper case. -/
theorem toUpper_cases (c : Char) : c.toUpper = c ∧ (c.toNat < 97 ∨ 122 < c.toNat) ∨
    97 ≤ c.toNat ∧ c.toNat ≤ 122 ∧ c.toUpper.toNat = c.toNat - 32 := by
  unfold Char.toUpper
  split
  · next h =>
    right
    obtain ⟨hlow, hhigh⟩ := h
    have hlow : 97 ≤ c.toNat := hlow
    have hhigh : c.toNat ≤ 122 := hhigh
    refine ⟨hlow, hhigh, ?_⟩
    show (c.val + 4294967264).toNat = c.toNat - 32
    rw [UInt32.toNat_add]
    show (c.toNat + 4294967264) % 4294967296 = c.toNat - 32
    omega
  · next h =>
    have h : ¬ (97 ≤ c.toNat ∧ c.toNat ≤ 122) := h
    exact .inl ⟨rfl, by omega⟩

/-- A character is a digit of a thumbprint in upper case if it is a hexadecimal digit. -/
theorem isThumbprintDigit_toUpper (c : Char) :
    isThumbprintDigit c.toUpper = true ↔ IsHexDigit c := by
  rw [isThumbprintDigit_iff, isHexDigit_iff]
  rcases toUpper_cases c with ⟨hsame, hother⟩ | ⟨hlow, hhigh, hupper⟩
  · rw [hsame]
    omega
  · rw [hupper]
    omega

/-- A digit of a thumbprint is in upper case, and no white space. -/
theorem of_isThumbprintDigit {c : Char} (h : isThumbprintDigit c = true) :
    c.toUpper = c ∧ isBlank c = false := by
  rw [isThumbprintDigit_iff] at h
  refine ⟨?_, ?_⟩
  · rcases toUpper_cases c with ⟨hsame, -⟩ | ⟨hlow, hhigh, -⟩
    · exact hsame
    · omega
  · simp only [isBlank, Bool.or_eq_false_iff, Bool.and_eq_false_iff, decide_eq_false_iff_not,
      beq_eq_false_iff_ne]
    omega

variable {s s' : String} {t : Thumbprint}

/-- **What a text is read as is its normal form.** -/
theorem read_eq_ok_iff : read s = .ok t ↔ t.text = normalize s := by
  obtain ⟨text, digits, nonempty⟩ := t
  simp only [read]
  constructor
  · intro h
    split at h
    · cases h
    · split at h
      · exact (congrArg Thumbprint.text (Except.ok.inj h)).symm
      · cases h
  · rintro rfl
    rw [dif_neg nonempty, dif_pos digits]

/-- A text is read exactly if hexadecimal digits are left of it, and at least one. -/
theorem exists_read_iff :
    (∃ t, read s = .ok t) ↔ unspaced s ≠ [] ∧ ∀ c ∈ unspaced s, IsHexDigit c := by
  have hdigits : (normalize s).toList.all isThumbprintDigit = true ↔
      ∀ c ∈ unspaced s, IsHexDigit c := by
    simp [toList_normalize, isThumbprintDigit_toUpper]
  have hempty : (normalize s).toList ≠ [] ↔ unspaced s ≠ [] := by
    simp [toList_normalize]
  rw [← hdigits, ← hempty]
  constructor
  · rintro ⟨t, h⟩
    rw [← read_eq_ok_iff.1 h]
    exact ⟨t.nonempty, t.digits⟩
  · rintro ⟨hne, hall⟩
    exact ⟨⟨normalize s, hall, hne⟩, read_eq_ok_iff.2 rfl⟩

/-- A thumbprint is its own normal form. -/
theorem normalize_text (t : Thumbprint) : normalize t.text = t.text := by
  have hdigits : ∀ c ∈ t.text.toList, c.toUpper = c ∧ isBlank c = false := fun c hc =>
    of_isThumbprintDigit (List.all_eq_true.1 t.digits c hc)
  have hunspaced : unspaced t.text = t.text.toList :=
    List.filter_eq_self.2 fun c hc => by simp [(hdigits c hc).2]
  have hupper : t.text.toList.map Char.toUpper = t.text.toList.map id :=
    List.map_congr_left fun c hc => (hdigits c hc).1
  apply String.toList_injective
  rw [toList_normalize, hunspaced, hupper, List.map_id]

/-- Texts with the same normal form are read alike. -/
theorem read_eq_of_normalize_eq (h : normalize s = normalize s') :
    (∃ f f', read s = .error f ∧ read s' = .error f') ∨ ∃ t, read s = .ok t ∧ read s' = .ok t := by
  cases hs : read s with
  | ok t =>
    have ht : t.text = normalize s' := (read_eq_ok_iff.1 hs).trans h
    exact .inr ⟨t, rfl, read_eq_ok_iff.2 ht⟩
  | error f =>
    cases hs' : read s' with
    | error f' => exact .inl ⟨f, f', rfl, rfl⟩
    | ok t =>
      have ht : read s = .ok t := read_eq_ok_iff.2 ((read_eq_ok_iff.1 hs').trans h.symm)
      rw [hs] at ht
      cases ht

end Thumbprint

namespace Credential

variable {s : String} {c : Credential}

/-- A credential with a thumbprint is one that the text is read as. -/
theorem thumbprint_eq_ok_iff : Credential.thumbprint s = .ok c ↔
    ∃ t, Thumbprint.read s = .ok t ∧ c = ⟨.thumbprint t, none⟩ := by
  rw [Credential.thumbprint]
  cases Thumbprint.read s with
  | error f => simp [Except.map]
  | ok t => simp [Except.map, eq_comm]

theorem thumbprint_eq_error_iff {f : InputFault} :
    Credential.thumbprint s = .error f ↔ Thumbprint.read s = .error f := by
  rw [Credential.thumbprint]
  cases Thumbprint.read s <;> simp [Except.map]

/-- A thumbprint is read as itself. -/
theorem thumbprint_text (t : Thumbprint) :
    Credential.thumbprint t.text = .ok ⟨.thumbprint t, none⟩ :=
  thumbprint_eq_ok_iff.2 ⟨t, Thumbprint.read_eq_ok_iff.2 t.normalize_text.symm, rfl⟩

end Credential

/-! ## The search for a certificate -/

namespace Certificate

/-- The file that is tried for a thumbprint with an extension. -/
def fileOf (t : Thumbprint) (extension : String) : String := t.text ++ "." ++ extension

/-- The files that are tried for a thumbprint are components. -/
theorem isComponent_fileOf (t : Thumbprint) {extension : String} (hslash : '/' ∉ extension.toList)
    (hnul : '\x00' ∉ extension.toList) : Files.IsComponent (fileOf t extension) := by
  have hdigits := List.all_eq_true.1 t.digits
  have hother : ∀ c, isThumbprintDigit c = false → c ∉ t.text.toList := by
    intro c hc hmem
    rw [hdigits c hmem] at hc
    cases hc
  obtain ⟨first, rest, hfirst⟩ := List.exists_cons_of_ne_nil t.nonempty
  have hdot : first ≠ '.' := by
    rintro rfl
    exact hother '.' rfl (by simp [hfirst])
  have htext : (fileOf t extension).toList = first :: (rest ++ '.' :: extension.toList) := by
    simp [fileOf, hfirst]
  have hne : ∀ cs : List Char, cs.head? ≠ some first → fileOf t extension ≠ String.ofList cs := by
    intro cs hhead heq
    rw [heq, String.toList_ofList] at htext
    exact hhead (by simp [htext])
  refine ⟨hne [] (by simp), hne ['.'] (by simpa using Ne.symm hdot),
    hne ['.', '.'] (by simpa using Ne.symm hdot), ?_, ?_⟩
  · simpa [fileOf, hslash] using hother '/' rfl
  · simpa [fileOf, hnul] using hother '\x00' rfl

theorem isComponent_of_mem {t : Thumbprint} {file : String}
    (h : file ∈ [fileOf t "pfx", fileOf t "p12"]) : Files.IsComponent file := by
  rcases List.mem_pair.1 h with rfl | rfl
  · exact isComponent_fileOf t (by decide) (by decide)
  · exact isComponent_fileOf t (by decide) (by decide)

namespace Store

variable {s : Store} {t : Thumbprint}

/-- A search goes on exactly if the file is missing. -/
theorem asked_search_cons (path name extension : String) (rest : List String)
    (read : String → Except Files.ReadFault Octets) :
    (search path name (extension :: rest)).asked read = (name ++ "." ++ extension) ::
      if read (name ++ "." ++ extension) = .error .missing then (search path name rest).asked read
      else [] := by
  simp only [search, Dialogue.asked]
  cases read (name ++ "." ++ extension) with
  | ok content => rfl
  | error f => cases f <;> rfl

/-- **The files that are read for a thumbprint**: the first one, and the second one exactly if
the first is missing. -/
theorem asked_search (path : String) (t : Thumbprint)
    (read : String → Except Files.ReadFault Octets) :
    (search path t.text extensions).asked read = fileOf t "pfx" ::
      if read (fileOf t "pfx") = .error .missing then [fileOf t "p12"] else [] := by
  have hsecond : (search path t.text ["p12"]).asked read = [fileOf t "p12"] := by
    rw [asked_search_cons]
    exact congrArg (fileOf t "p12" :: ·) (ite_self _)
  rw [extensions, asked_search_cons, hsecond]
  rfl

theorem mem_of_mem_asked_search {path file : String}
    {read : String → Except Files.ReadFault Octets}
    (h : file ∈ (search path t.text extensions).asked read) :
    file ∈ [fileOf t "pfx", fileOf t "p12"] := by
  rw [asked_search] at h
  split at h
  · exact h
  · exact List.mem_cons.2 (.inl (List.mem_singleton.1 h))

/-- A failure other than a missing file ends the search. -/
theorem find_of_read {f : Files.ReadFault} (hf : f ≠ .missing)
    (h : s.read (fileOf t "pfx") = .error f) :
    s.find t.text = .error (.certificate
      ("unable to read " ++ Files.join s.path (fileOf t "pfx") ++ ": " ++ f.message)) := by
  have hread : s.read (t.text ++ "." ++ "pfx") = .error f := h
  simp only [find, extensions, search, Dialogue.answered, hread]
  cases f <;> first | exact absurd rfl hf | rfl

theorem read_of_pathFault? {file : String} {f : Files.ReadFault}
    (h : Files.pathFault? (Files.join s.path file) = some f) : s.read file = .error f := by
  rw [read, h]

section Folder

variable {entries : List (String × Files.Node)} (hs : s.place.node = .folder entries)

include hs

/-- What is read of a file of the folder is the entry of its name, unless the system refuses the
path as such. -/
theorem read_component {file : String} (h : Files.IsComponent file)
    (hvalid : Files.pathFault? (Files.join s.path file) = none) :
    s.read file = Files.readEntry entries file := by
  rw [read, hvalid]
  exact Files.Place.read_component hs h

/-- A file is reported as missing exactly if its path is none that the system refuses and nothing
is found by its name. -/
theorem read_eq_missing_iff {file : String} (h : Files.IsComponent file) :
    s.read file = .error .missing ↔
      Files.pathFault? (Files.join s.path file) = none ∧ Files.IsMissing entries file := by
  cases hfault : Files.pathFault? (Files.join s.path file) with
  | some f =>
    refine iff_of_false (fun hread => ?_) (by simp)
    rw [read_of_pathFault? hfault] at hread
    exact Files.pathFault?_join_ne_missing s.path h (hfault.trans (congrArg some (Except.error.inj hread)))
  | none =>
    rw [read_component hs h hfault, Files.readEntry_eq_missing_iff]
    simp

/-- The files of the folder are what the system gives by their whole paths. -/
theorem read_join {cwd : Files.Place} (hleads : Files.LeadsTo cwd s.path s.place) {file : String}
    (h : Files.IsComponent file) : cwd.read (Files.join s.path file) = s.read file := by
  cases hfault : Files.pathFault? (Files.join s.path file) with
  | some f => rw [read_of_pathFault? hfault, Files.Place.read_of_pathFault? hfault]
  | none => rw [Files.Place.read_join hleads hs h hfault, read, hfault]

end Folder

/-- **What is found for a thumbprint** in a folder depends on two entries and on no other one. -/
theorem find_eq_of_lookup_eq {s' : Store} {entries entries' : List (String × Files.Node)}
    (hpath : s'.path = s.path) (hs : s.place.node = .folder entries)
    (hs' : s'.place.node = .folder entries')
    (h : ∀ file ∈ [fileOf t "pfx", fileOf t "p12"], entries'.lookup file = entries.lookup file) :
    s'.find t.text = s.find t.text := by
  have hread : ∀ file ∈ [fileOf t "pfx", fileOf t "p12"], s'.read file = s.read file := by
    intro file hfile
    have hcomponent := isComponent_of_mem hfile
    have hplace : s'.place.read file = s.place.read file := by
      rw [Files.Place.read_component hs hcomponent, Files.Place.read_component hs' hcomponent,
        Files.readEntry, Files.readEntry, h file hfile]
    rw [read, read, hpath, hplace]
  rw [find, Dialogue.answered_congr fun file hfile => hread file (mem_of_mem_asked_search hfile),
    hpath]
  rfl

/-- A folder of which no more is known than what was read of its files reads them as they were
read, if paths and names were refused as the system refuses them. -/
theorem read_ofReads {path file : String} {asked : List String}
    (read : String → Except Files.ReadFault Octets) (h : Files.IsComponent file)
    (hasked : file ∈ asked)
    (hpath : ∀ f, Files.pathFault? (Files.join path file) = some f → read file = .error f)
    (hname : Files.nameLimit < file.utf8ByteSize →
      Files.pathFault? (Files.join path file) = none → read file = .error .nameTooLong) :
    (ofReads path (asked.map fun file => (file, read file))).read file = read file := by
  cases hfault : Files.pathFault? (Files.join path file) with
  | some f =>
    rw [hpath f hfault]
    exact read_of_pathFault? (s := ofReads path (asked.map fun file => (file, read file))) hfault
  | none =>
    rw [read_component (s := ofReads path (asked.map fun file => (file, read file))) rfl h hfault,
      Files.readEntry, List.map_map]
    split
    · next hlong => exact (hname hlong hfault).symm
    · simp only [Function.comp_def]
      rw [List.lookup_graph _ hasked]
      exact Files.content_ofContent _

/-- **What is gathered suffices**: a program that reads the files that the search asks for by
their paths, one after the other, finds what the search finds. -/
theorem find_gather {read : String → Except Files.ReadFault Octets} {path : String}
    (hpath : ∀ file f, Files.pathFault? file = some f → read file = .error f)
    (hname : ∀ file, Files.nameLimit < file.utf8ByteSize →
      Files.pathFault? (Files.join path file) = none →
        read (Files.join path file) = .error .nameTooLong) (provider : Option String) :
    (gather (m := Id) read path ⟨.thumbprint t, provider⟩).find t.text =
      (search path t.text extensions).answered fun file => read (Files.join path file) := by
  have hgather : gather (m := Id) read path ⟨.thumbprint t, provider⟩ =
      ofReads path ((search path t.text extensions).exchanges (m := Id)
        fun file => read (Files.join path file)) := rfl
  rw [hgather, Dialogue.exchanges_id]
  exact Dialogue.answered_congr fun file hfile =>
    read_ofReads (fun file => read (Files.join path file))
      (isComponent_of_mem (mem_of_mem_asked_search hfile)) hfile (hpath _) (hname file)

end Store

/-- A thumbprint of 252 digits, with which a name has 256 letters. -/
def overlong : Thumbprint where
  text := String.ofList (List.replicate 252 'A')
  digits := by
    rw [String.toList_ofList, List.all_eq_true]
    intro c hc
    rw [List.eq_of_mem_replicate hc]
    rfl
  nonempty := by
    rw [String.toList_ofList, Ne, List.replicate_eq_nil_iff]
    decide

end Certificate

end Appliance
