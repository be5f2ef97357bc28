import Appliance.Proofs.Url.Authority

/-!
# Web addresses are read as they are written

The written form of a web address is its origin, all up to the port, and a path. Whatever
stands in the place of the path, the whole is read as an address of the same origin: nothing
in the user information, the host or the port can be mistaken for the end of the authority,
and nothing after the first slash gets into it.

* `Web.Tidy`, `tidy_of_read`  — a web address that is read is tidy.
* `Web.Tidy.readAuthority_eq` — its authority is read as it is written.
* `strip_append`              — what is left out of a text comes after the origin.
* `read_of_strip`             — what a text is read as that begins with the origin.
* **`read_origin`**           — any path after the origin leaves the origin as it is.
-/

namespace Appliance.Url

namespace Web

/-- The user information, the host and the port, as they are written. -/
def authority (w : Web) : List Char := w.user.chars ++ w.host.chars ++ portChars w.port

/-- All before the path, as it is written. -/
def origin (w : Web) : List Char := (scheme w.secure).toList ++ "://".toList ++ w.authority

/-- `Tidy w`: the user information of `w` is escaped, and its port is a number that need not be
left out. -/
structure Tidy (w : Web) : Prop where
  user : w.user.Tidy
  port : ∀ n, w.port = some n → n ≤ portLimit ∧ n ≠ standardPort w.secure

/-- Two addresses of one server, for one user. -/
structure SameOrigin (w w' : Web) : Prop where
  secure : w'.secure = w.secure
  user : w'.user = w.user
  host : w'.host = w.host
  port : w'.port = w.port

/-- What may follow an authority: nothing, or what begins with a slash. -/
inductive Opens : List Char → Prop
  | nil : Opens []
  | slash (path : List Char) : Opens ('/' :: path)

theorem opens_pathChars (path : List (List Char)) : Opens (pathChars path) := by
  cases path with
  | nil => exact .nil
  | cons s path => exact .slash _

theorem chars_eq (w : Web) : w.chars = w.origin ++ pathChars w.path := by
  simp [chars, origin, authority]

/-! ## What is read is tidy -/

/-- The user information of an authority, if there is one, as it is read. -/
def askedUser : Option (List Char) → User
  | none => User.none
  | some cs => User.read cs

theorem tidy_askedUser (asked : Option (List Char)) : (askedUser asked).Tidy := by
  cases asked with
  | none => exact User.tidy_none
  | some cs => exact User.tidy_read cs

/-- An authority is read by its parts. -/
theorem readAuthority_eq {cs authority rest server : List Char} {asked : Option (List Char)}
    (hsplit : splitAuthority true cs = (authority, rest))
    (hasked : splitUser authority = none ∧ asked = none ∧ server = authority ∨
      ∃ body, splitUser authority = some (body, server) ∧ asked = some body) :
    readAuthority true Host.read cs =
      if asked == some [] && server.isEmpty && !rest.isEmpty then .error .emptyHost
      else if (splitPort false server).1.isEmpty then .error .emptyHost
      else (Host.read (splitPort false server).1).bind fun host =>
        (readPort (splitPort false server).2).map
          fun port => (askedUser asked, some host, port) := by
  rcases hasked with ⟨hnone, rfl, rfl⟩ | ⟨body, hsome, rfl⟩
  · unfold readAuthority
    rw [hsplit]
    simp only [hnone]
    simp [askedUser, bind, Except.bind, Except.map]
    rfl
  · unfold readAuthority
    rw [hsplit]
    simp only [hsome]
    simp [askedUser, bind, Except.bind, Except.map]
    rfl

/-- What an authority is read as is tidy. -/
theorem tidy_of_readAuthority {cs : List Char} {user : User} {host : Host} {port : Option Nat}
    (h : readAuthority true Host.read cs = .ok (user, some host, port)) :
    user.Tidy ∧ ∀ n, port = some n → n ≤ portLimit := by
  obtain ⟨asked, server, hasked⟩ : ∃ asked server,
      splitUser (splitAuthority true cs).1 = none ∧ asked = none ∧
          server = (splitAuthority true cs).1 ∨
        ∃ body, splitUser (splitAuthority true cs).1 = some (body, server) ∧ asked = some body := by
    cases hsplit : splitUser (splitAuthority true cs).1 with
    | none => exact ⟨none, _, .inl ⟨rfl, rfl, rfl⟩⟩
    | some parts => exact ⟨some parts.1, parts.2, .inr ⟨parts.1, rfl, rfl⟩⟩
  have hsplit : splitAuthority true cs = ((splitAuthority true cs).1, (splitAuthority true cs).2) :=
    rfl
  rw [readAuthority_eq hsplit hasked] at h
  split at h
  · cases h
  · split at h
    · cases h
    · cases hhost : Host.read (splitPort false server).1 with
      | error f =>
        rw [hhost] at h
        cases h
      | ok host' =>
        rw [hhost] at h
        cases hport : readPort (splitPort false server).2 with
        | error f => simp [hport, Except.bind, Except.map] at h
        | ok port' =>
          simp only [hport, Except.bind, Except.map, Except.ok.injEq, Prod.mk.injEq] at h
          obtain ⟨rfl, -, rfl⟩ := h
          refine ⟨tidy_askedUser asked, ?_⟩
          rintro n rfl
          exact le_of_readPort hport

theorem tidy_of_read {secure : Bool} {cs : List Char} {w : Web} (h : read secure cs = .ok w) :
    w.Tidy ∧ w.secure = secure := by
  unfold read at h
  simp only [bind, Except.bind] at h
  split at h
  · cases h
  · next parts hparts =>
    split at h
    · next user host port =>
      cases h
      obtain ⟨huser, hport⟩ := tidy_of_readAuthority hparts
      refine ⟨⟨huser, ?_⟩, rfl⟩
      intro n hn
      simp only at hn
      split at hn
      · cases hn
      · next hne =>
        refine ⟨hport n hn, ?_⟩
        rintro rfl
        exact hne hn
    · cases h

/-- The path of an address is what follows its authority, read as segments. -/
theorem exists_path {secure : Bool} {cs : List Char} {w : Web} (h : read secure cs = .ok w) :
    ∃ rest, w.path = segments rest := by
  unfold read at h
  simp only [bind, Except.bind] at h
  split at h
  · cases h
  · split at h
    · cases h
      exact ⟨_, rfl⟩
    · cases h

/-! ## What is written is read back -/

section Tidy

variable {w : Web} (h : w.Tidy)
include h

/-- All that stands in an authority. -/
theorem Tidy.tame : ∀ c ∈ w.authority, Tame c := by
  intro c hc
  rcases List.mem_append.1 hc with hc | hc
  · rcases List.mem_append.1 hc with hc | hc
    · exact User.tame_chars h.user c hc
    · exact (tame_host w.host c hc).1
  · exact (tame_portChars w.port c hc).1

omit h in
theorem host_ne_nil (host : Host) : host.chars ≠ [] := by
  rcases host_kinds host with ⟨-, hne⟩ | ⟨inner, heq, -⟩
  · exact hne
  · rw [heq]
    exact List.cons_ne_nil _ _

/-- The authority ends before what follows it. -/
theorem Tidy.splitAuthority_eq {rest : List Char} (hrest : Opens rest) :
    splitAuthority true (w.authority ++ rest) = (w.authority, rest) := by
  have hkept : ∀ c ∈ w.authority,
      (!(c == '/' || c == '?' || c == '#' || (true && c == '\\'))) = true := by
    intro c hc
    have hmem := (h.tame c hc).2
    simpa [and_assoc] using hmem
  simp only [splitAuthority, List.takeWhile_append_of_pos hkept, List.dropWhile_append_of_pos hkept]
  cases hrest <;> simp

/-- **The authority of an address is read as it is written.** -/
theorem Tidy.readAuthority_eq {rest : List Char} (hrest : Opens rest) :
    readAuthority true Host.read (w.authority ++ rest) = .ok (w.user, some w.host, w.port) := by
  have hserver : '@' ∉ w.host.chars ++ portChars w.port := by
    intro hmem
    rcases List.mem_append.1 hmem with hmem | hmem
    · exact (tame_host w.host _ hmem).2 rfl
    · exact (tame_portChars w.port _ hmem).2 rfl
  have hasked : ∃ asked, askedUser asked = w.user ∧
      (splitUser w.authority = none ∧ asked = none ∧
          w.host.chars ++ portChars w.port = w.authority ∨
        ∃ body, splitUser w.authority = some (body, w.host.chars ++ portChars w.port) ∧
          asked = some body) := by
    by_cases hne : w.user.chars = []
    · have hnone : w.authority = w.host.chars ++ portChars w.port := by simp [authority, hne]
      refine ⟨none, (User.eq_none_of_chars hne).symm, .inl ⟨?_, rfl, hnone.symm⟩⟩
      rw [hnone]
      exact splitUser_of_not_mem hserver
    · obtain ⟨body, hbody, hread⟩ := User.read_chars h.user hne
      refine ⟨some body, hread, .inr ⟨body, ?_, rfl⟩⟩
      have hauthority : w.authority = body ++ '@' :: (w.host.chars ++ portChars w.port) := by
        simp [authority, hbody]
      rw [hauthority]
      exact splitUser_append hserver
  obtain ⟨asked, huser, hasked⟩ := hasked
  rw [Web.readAuthority_eq (h.splitAuthority_eq hrest) hasked, splitPort_host]
  have hport : readPort (portChars w.port) = .ok w.port :=
    readPort_portChars fun n hn => (h.port n hn).1
  have hhost := host_ne_nil w.host
  simp [hhost, Host.read_chars, hport, huser, Except.bind, Except.map]

/-- Slashes before the authority do not count. -/
theorem Tidy.dropWhile_slashes (rest : List Char) :
    ("//".toList ++ (w.authority ++ rest)).dropWhile isSlash = w.authority ++ rest := by
  obtain ⟨c, cs, hauthority⟩ : ∃ c cs, w.authority = c :: cs := by
    refine List.exists_cons_of_ne_nil fun hnil => host_ne_nil w.host ?_
    simp only [authority, List.append_eq_nil_iff] at hnil
    exact hnil.1.2
  have hc : isSlash c = false := by
    have hmem := (h.tame c (by simp [hauthority])).2
    simp only [isSlash, Bool.or_eq_false_iff, beq_eq_false_iff_ne]
    exact ⟨by rintro rfl; exact hmem (by decide), by rintro rfl; exact hmem (by decide)⟩
  have hslashes : ∀ c ∈ "//".toList, isSlash c = true := List.all_eq_true.1 (by decide)
  rw [List.dropWhile_append_of_pos hslashes, hauthority, List.cons_append,
    List.dropWhile_cons_of_neg (by simp [hc])]

/-- **An address is read back from its authority**, with the path that follows it. -/
theorem Tidy.read_authority {rest : List Char} (hrest : Opens rest) :
    Web.read w.secure ("//".toList ++ (w.authority ++ rest)) =
      .ok { w with path := segments rest } := by
  have hport : (if w.port = some (standardPort w.secure) then none else w.port) = w.port := by
    refine if_neg fun hstandard => ?_
    exact (h.port _ hstandard).2 rfl
  simp only [read, h.dropWhile_slashes rest, h.readAuthority_eq hrest, h.splitAuthority_eq hrest,
    bind, Except.bind, hport]
  rfl

/-- All that stands before the path shows, and begins neither a query nor a fragment. -/
theorem Tidy.kept_origin : ∀ c ∈ w.origin, Visible c ∧ c ≠ '?' ∧ c ≠ '#' := by
  intro c hc
  rcases List.mem_append.1 hc with hc | hc
  · have hscheme : ∀ secure, ∀ c ∈ (scheme secure).toList ++ "://".toList,
        Visible c ∧ c ≠ '?' ∧ c ≠ '#' := by
      intro secure
      cases secure <;> exact List.all_iff_forall_prop.1 (by decide)
    exact hscheme w.secure c hc
  · obtain ⟨hvisible, hmarks⟩ := h.tame c hc
    refine ⟨hvisible, ?_, ?_⟩ <;> rintro rfl <;> exact hmarks (by decide)

theorem Tidy.visible_origin : ∀ c ∈ w.origin, Visible c := fun c hc => (h.kept_origin c hc).1

end Tidy

end Web

/-! ## Texts -/

theorem dropWhile_append_cons {p : Char → Bool} {c : Char} (hc : p c = false)
    (before after : List Char) :
    (before ++ c :: after).dropWhile p = before.dropWhile p ++ c :: after := by
  induction before with
  | nil => simp [hc]
  | cons b before ih =>
    cases hb : p b with
    | true => simp [hb, ih]
    | false => simp [hb]

theorem isEdge_of_visible {c : Char} (h : Visible c) : isEdge c = false := by
  simpa [isEdge] using h.1

theorem isBreak_of_visible {c : Char} (h : Visible c) : isBreak c = false := by
  cases hbreak : isBreak c with
  | false => rfl
  | true =>
    simp only [isBreak, Bool.or_eq_true, beq_iff_eq] at hbreak
    rcases hbreak with (rfl | rfl) | rfl <;> exact absurd h (by decide)

/-- Nothing is left out of a text that shows. -/
theorem strip_eq_self {cs : List Char} (h : ∀ c ∈ cs, Visible c) : strip cs = cs := by
  have hkept : ∀ {cs : List Char}, (∀ c ∈ cs, Visible c) → cs.dropWhile isEdge = cs := by
    intro cs h
    cases cs with
    | nil => rfl
    | cons c cs =>
      rw [List.dropWhile_cons_of_neg]
      simp [isEdge_of_visible (h c (List.mem_cons_self ..))]
  rw [strip, hkept h, hkept fun c hc => h c (List.mem_reverse.1 hc), List.reverse_reverse,
    List.filter_eq_self.2 fun c hc => by simp [isBreak_of_visible (h c hc)]]

/-- What is left out of a text comes after its first slash, if all before that shows. -/
theorem strip_append {origin : List Char} (horigin : ∀ c ∈ origin, Visible c)
    (rest : List Char) : ∃ rest', strip (origin ++ '/' :: rest) = origin ++ '/' :: rest' := by
  have hvisible : ∀ c ∈ origin ++ ['/'], Visible c :=
    List.forall_mem_append.2 ⟨horigin, List.forall_mem_singleton.2 (by decide)⟩
  have hedge : ∀ c ∈ origin ++ ['/'], isEdge c = false := fun c hc =>
    isEdge_of_visible (hvisible c hc)
  have hbreak : ∀ c ∈ origin ++ ['/'], (!isBreak c) = true := fun c hc => by
    simp [isBreak_of_visible (hvisible c hc)]
  have hfront : (origin ++ '/' :: rest).dropWhile isEdge = origin ++ '/' :: rest := by
    cases origin with
    | nil => rfl
    | cons c origin =>
      rw [List.cons_append, List.dropWhile_cons_of_neg]
      simp [hedge c (by simp)]
  have hback : (((origin ++ '/' :: rest).reverse.dropWhile isEdge).reverse) =
      origin ++ '/' :: (rest.reverse.dropWhile isEdge).reverse := by
    have hreverse : (origin ++ '/' :: rest).reverse = rest.reverse ++ '/' :: origin.reverse := by
      simp
    rw [hreverse, dropWhile_append_cons (hedge '/' (by simp))]
    simp
  refine ⟨((rest.reverse.dropWhile isEdge).reverse).filter fun c => !isBreak c, ?_⟩
  rw [strip, hfront, hback, List.append_cons, List.filter_append,
    List.filter_eq_self.2 hbreak, ← List.append_cons]

/-- The scheme of a web address is read as it is written. -/
theorem splitScheme_scheme (secure : Bool) (rest : List Char) :
    splitScheme ((Web.scheme secure).toList ++ ':' :: rest) =
      some ((Web.scheme secure).toList, rest) := by
  cases secure <;> simp [splitScheme, Web.scheme, isSchemeChar]

/-- What a text is read as that begins with the origin of an address: this address, with the path
that follows. -/
theorem read_of_strip {w : Web} (h : w.Tidy) {cs rest : List Char}
    (hstrip : strip cs = w.origin ++ rest) (hrest : Web.Opens rest) :
    read cs = .ok (.web { w with path := segments rest }) := by
  have hread := h.read_authority hrest
  have horigin : w.origin ++ rest = (Web.scheme w.secure).toList ++
      ':' :: ("//".toList ++ (w.authority ++ rest)) := by
    simp [Web.origin]
  rw [read, hstrip, horigin, splitScheme_scheme]
  simp only [String.ofList_toList]
  cases hsecure : w.secure with
  | true =>
    rw [hsecure] at hread
    rw [if_pos (show Web.scheme true = "https" from rfl), hread]
    rfl
  | false =>
    rw [hsecure] at hread
    rw [if_neg (show Web.scheme false ≠ "https" by decide),
      if_pos (show Web.scheme false = "http" from rfl), hread]
    rfl

/-- **Whatever path follows the origin of an address, the whole is read as an address of the
same origin.** -/
theorem read_origin {w : Web} (h : w.Tidy) (path : List Char) :
    ∃ w', read (w.origin ++ '/' :: path) = .ok (.web w') ∧ w.SameOrigin w' := by
  obtain ⟨path', hstrip⟩ := strip_append h.visible_origin path
  exact ⟨_, read_of_strip h hstrip (.slash path'), rfl, rfl, rfl, rfl⟩

/-- What is read after another scheme is no web address. -/
theorem readForeign_ne_web (scheme cs : List Char) (w : Web) :
    readForeign scheme cs ≠ .ok (.web w) := by
  have hmap : ∀ {α : Type} (r : Except Fault α),
      r.map (fun _ => Reading.foreign) ≠ .ok (.web w) := by
    intro α r
    cases r <;> simp [Except.map]
  unfold readForeign
  split
  · exact hmap _
  · split
    · exact hmap _
    · split
      · exact hmap _
      · simp
      · simp

/-- A web address is read from what follows its scheme. -/
theorem exists_read {cs : List Char} {w : Web} (h : read cs = .ok (.web w)) :
    ∃ secure rest, Web.read secure rest = .ok w := by
  have hweb : ∀ {secure rest}, (Web.read secure rest).map Reading.web = .ok (.web w) →
      Web.read secure rest = .ok w := by
    intro secure rest hread
    cases hrest : Web.read secure rest with
    | error f => simp [hrest, Except.map] at hread
    | ok w' => simpa [hrest, Except.map] using hread
  unfold read at h
  split at h
  · cases h
  · split at h
    · exact ⟨_, _, hweb h⟩
    · split at h
      · exact ⟨_, _, hweb h⟩
      · exact absurd h (readForeign_ne_web _ _ w)

/-- A web address that is read is tidy. -/
theorem tidy_of_read {cs : List Char} {w : Web} (h : read cs = .ok (.web w)) : w.Tidy := by
  obtain ⟨secure, rest, hread⟩ := exists_read h
  exact (Web.tidy_of_read hread).1

end Appliance.Url
