import Appliance.Files
import Mathlib.Data.List.Basic

/-!
# Names that lead one step down

A path is followed one component at a time. A name with no separator in it is one component, and
joined to the path of a folder it leads into that folder and no further, however the path of the
folder is written.

* `Files.IsComponent`: a name that stands for itself in a path.
* `Files.readEntry`, `Files.IsMissing`: what a folder gives by a name, and when it has nothing.
* `Files.LeadsTo`: the folder that a path names, or the place itself if the path is empty.
* `Files.Place.find_component`, **`Files.Place.find_join`**: such a name leads one step down, alone
  and behind the path of a folder.
* `Files.Place.read_component`, `Files.Place.read_join`: what is read there.
-/

namespace Appliance.Files

/-- A name that stands for itself in a path: it is not empty, it is neither the folder itself nor
the one above it, and it holds no separator and no NUL. -/
structure IsComponent (file : String) : Prop where
  ne_empty : file ≠ ""
  ne_dot : file ≠ "."
  ne_dots : file ≠ ".."
  noSlash : '/' ∉ file.toList
  noNul : '\x00' ∉ file.toList

/-- The content of the entry of a folder that goes by a name, or why there is none. -/
def readEntry (entries : List (String × Node)) (file : String) : Except ReadFault Octets :=
  if nameLimit < file.utf8ByteSize then .error .nameTooLong
  else match entries.lookup file with
    | some n => n.content
    | none => .error .missing

/-- Nothing is found by a name: it is no longer than names may be, and there is no entry of that
name, or one that leads nowhere. -/
def IsMissing (entries : List (String × Node)) (file : String) : Prop :=
  file.utf8ByteSize ≤ nameLimit ∧
    (entries.lookup file = none ∨ entries.lookup file = some (.unreadable .missing))

/-- A path leads from a place to another one. The empty path names the place itself. -/
def LeadsTo (cwd : Place) (folder : String) (p : Place) : Prop :=
  folder = "" ∧ p = cwd ∨ cwd.find folder = .ok p

@[simp] theorem content_ofContent (r : Except ReadFault Octets) :
    (Node.ofContent r).content = r := by
  cases r <;> rfl

variable {entries : List (String × Node)} {folder file : String}

/-- A folder reports a file as missing exactly if nothing is found by its name. -/
theorem readEntry_eq_missing_iff :
    readEntry entries file = .error .missing ↔ IsMissing entries file := by
  unfold readEntry IsMissing
  split
  · next hlong => exact iff_of_false (by simp) fun h => absurd h.1 (Nat.not_le.2 hlong)
  · next hshort =>
    have hsize : file.utf8ByteSize ≤ nameLimit := Nat.le_of_not_lt hshort
    cases entries.lookup file with
    | none => simp [hsize]
    | some n => cases n <;> simp [hsize, Node.content]

theorem pathFault?_eq_none {path : String} (hnul : '\x00' ∉ path.toList) (hne : path ≠ "")
    (hsize : path.utf8ByteSize < pathLimit) : pathFault? path = none := by
  have hcontains : path.contains '\x00' = false := by simpa using hnul
  rw [pathFault?, if_neg (by simp [hcontains]), if_neg hne, if_neg (Nat.not_le.2 hsize)]

/-- A component is refused as a path if it is too long. -/
theorem pathFault?_component (h : IsComponent file) : pathFault? file =
    if pathLimit ≤ file.utf8ByteSize then some .nameTooLong else none := by
  have hcontains : file.contains '\x00' = false := by simpa using h.noNul
  rw [pathFault?, if_neg (by simp [hcontains]), if_neg h.ne_empty]

/-! ## Components of a path -/

/-- A name without a separator is the only component of itself. -/
theorem components_eq_singleton (h : '/' ∉ file.toList) : components file = [file] := by
  rw [components, List.splitOn_eq_singleton h, List.map_singleton, String.ofList_toList]

/-- A name without a separator is the last component behind a slash. -/
theorem components_slash (folder : String) (h : '/' ∉ file.toList) :
    components (folder ++ "/" ++ file) = components folder ++ [file] := by
  have hslash : (folder ++ "/" ++ file).toList = folder.toList ++ '/' :: file.toList := by simp
  rw [components, hslash, List.splitOn_append_cons_self, List.map_append]
  exact congrArg (components folder ++ ·) (components_eq_singleton h)

theorem components_ne_nil (path : String) : components path ≠ [] := by
  simp [components, List.splitOn_ne_nil]

theorem join_component (folder : String) (h : IsComponent file) : join folder file =
    if folder.toList.getLast?.any (· ≠ '/') then folder ++ "/" ++ file else folder ++ file := by
  have hstart : ¬ file.startsWith "/" = true := by
    rw [String.startsWith_string_iff]
    intro hslash
    exact h.noSlash (hslash.subset (by simp))
  rw [join, if_neg hstart]

/-- The path of a file in a folder is not empty, so it is not refused as missing. -/
theorem pathFault?_join_ne_missing (folder : String) (h : IsComponent file) :
    pathFault? (join folder file) ≠ some .missing := by
  have hne : join folder file ≠ "" := by
    intro heq
    rw [join_component folder h] at heq
    have hlist := congrArg String.toList heq
    split at hlist <;> simp [h.ne_empty] at hlist
  unfold pathFault?
  split_ifs <;> simp

/-- A path that ends with a slash. -/
theorem exists_slash_of_getLast? (h : folder.toList.getLast? = some '/') :
    ∃ front : String, folder = front ++ "/" := by
  obtain ⟨front, hfront⟩ := List.getLast?_eq_some_iff.1 h
  refine ⟨String.ofList front, String.toList_injective ?_⟩
  simp [hfront]

namespace Place

variable {p q cwd : Place}

/-- Following components one part after the other. -/
theorem follow_append (p : Place) (names more : List String) :
    p.follow (names ++ more) = (p.follow names).bind fun q => q.follow more := by
  induction names generalizing p with
  | nil => rfl
  | cons name rest ih =>
    rw [List.cons_append, follow, follow]
    cases p.enter name with
    | error f => rfl
    | ok q => exact ih q

theorem walk_append {names : List String} (hne : names ≠ []) (more : List String) :
    p.walk (names ++ more) = (p.walk names).bind fun q => q.follow more := by
  obtain ⟨first, rest, rfl⟩ := List.exists_cons_of_ne_nil hne
  by_cases hroot : first = ""
  · subst hroot
    exact follow_append p.root rest more
  · have hwalk : ∀ others, p.walk (first :: others) = p.follow (first :: others) := by
      intro others
      unfold walk
      split
      · next heq => exact absurd (List.cons.inj heq).1 hroot
      · rfl
    rw [List.cons_append, hwalk, hwalk]
    exact follow_append p (first :: rest) more

theorem follow_singleton (p : Place) (name : String) : p.follow [name] = p.enter name := by
  rw [follow]
  cases p.enter name <;> rfl

/-- A component is followed by one step. -/
theorem walk_component (p : Place) (hne : file ≠ "") : p.walk [file] = p.enter file := by
  unfold walk
  split
  · next heq => exact absurd (List.cons.inj heq).1 hne
  · exact follow_singleton p file

/-- **A component leads one step down.** One that is too long for a path is too long for an entry
as well. -/
theorem find_component (hp : p.node = .folder entries) (h : IsComponent file) :
    p.find file = p.enter file := by
  rw [find, pathFault?_component h, components_eq_singleton h.noSlash]
  split
  · next hfault =>
    split at hfault
    · next hlong =>
      cases hfault
      have hname : nameLimit < file.utf8ByteSize := Nat.lt_of_lt_of_le (by decide) hlong
      simp [enter, hp, h.ne_empty, h.ne_dot, h.ne_dots, hname]
    · cases hfault
  · exact walk_component p h.ne_empty

/-- A path that is found is not empty, and is followed by its components. -/
theorem walk_of_find (h : cwd.find folder = .ok p) :
    folder ≠ "" ∧ cwd.walk (components folder) = .ok p := by
  unfold find at h
  split at h
  · cases h
  · next hvalid =>
    refine ⟨?_, h⟩
    rintro rfl
    simp [pathFault?] at hvalid

/-- Only a folder is entered by the empty name, and one stays in it. -/
theorem eq_of_enter_empty (h : q.enter "" = .ok p) : p = q := by
  unfold enter at h
  split at h
  · cases h
  · cases h
  · rw [if_pos (.inl rfl)] at h
    exact (Except.ok.inj h).symm

/-- Behind the path of a folder a component is followed by one step into that folder, whether the
path ends with a slash or not. -/
theorem walk_join (hleads : LeadsTo cwd folder p) (h : IsComponent file) :
    cwd.walk (components (join folder file)) = p.enter file := by
  have hslash := h.noSlash
  rw [join_component folder h]
  rcases hleads with ⟨rfl, rfl⟩ | hfolder
  · have hfile : components ("" ++ file) = [file] := by
      rw [String.empty_append, components_eq_singleton hslash]
    exact (congrArg p.walk hfile).trans (walk_component p h.ne_empty)
  · obtain ⟨hfolder, hwalk⟩ := walk_of_find hfolder
    split
    · rw [components_slash folder hslash, walk_append (components_ne_nil folder), hwalk]
      exact follow_singleton p file
    · next hlast =>
      -- the path ends with a slash, behind which its last component is empty
      obtain ⟨c, hend⟩ := Option.ne_none_iff_exists'.1 (mt List.getLast?_eq_none_iff.1
        (String.toList_eq_nil_iff.not.2 hfolder))
      have hc : c = '/' := by simpa [hend] using hlast
      obtain ⟨front, rfl⟩ := exists_slash_of_getLast? (hc ▸ hend)
      have hfront : components (front ++ "/" ++ "") = components front ++ [""] :=
        components_slash front (by simp)
      rw [String.append_empty] at hfront
      rw [hfront, walk_append (components_ne_nil front)] at hwalk
      rw [components_slash front hslash, walk_append (components_ne_nil front)]
      cases hq : cwd.walk (components front) with
      | error f =>
        rw [hq] at hwalk
        cases hwalk
      | ok q =>
        rw [hq] at hwalk
        have hstay : q.enter "" = .ok p := (follow_singleton q "").symm.trans hwalk
        rw [eq_of_enter_empty hstay]
        exact follow_singleton q file

/-- **Behind the path of a folder a component leads one step down** into that folder, unless the
system refuses the path as such. -/
theorem find_join (hleads : LeadsTo cwd folder p) (h : IsComponent file)
    (hvalid : pathFault? (join folder file) = none) :
    cwd.find (join folder file) = p.enter file := by
  rw [find, hvalid]
  exact walk_join hleads h

/-- What is read by a component is the entry of that name. -/
theorem read_component (hp : p.node = .folder entries) (h : IsComponent file) :
    p.read file = readEntry entries file := by
  rw [read, find_component hp h]
  simp only [enter, hp, h.ne_empty, h.ne_dot, h.ne_dots, or_self, if_false, readEntry]
  split
  · rfl
  · cases entries.lookup file <;> rfl

/-- What is read by the whole path of a file, unless the system refuses the path as such. -/
theorem read_join (hleads : LeadsTo cwd folder p) (hp : p.node = .folder entries)
    (h : IsComponent file) (hvalid : pathFault? (join folder file) = none) :
    cwd.read (join folder file) = p.read file := by
  rw [read, read, find_component hp h, find_join hleads h hvalid]

theorem read_of_pathFault? {path : String} {f : ReadFault} (h : pathFault? path = some f) :
    cwd.read path = .error f := by
  rw [read, find, h]
  rfl

end Place

end Appliance.Files
