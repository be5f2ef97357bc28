import Appliance.Proofs.Url.Host
import Appliance.Url.Web
import Mathlib.Data.List.TakeWhile

/-!
# The parts of authorities

An authority is cut at its last at-sign, at the first colon outside brackets, and at the
first slash after it. This file shows that the parts are found again: escaped user information
holds none of these marks, a host holds colons only in brackets, and a port is digits.

* `Percent.mem_escape`        — what an escaped text holds; nothing is left to escape.
* `User.Tidy`, `User.read_chars` — escaped user information is read as it is written.
* `readPort_portChars`        — so is a port.
* `splitUser_append`, `splitPort_host` — where the parts are cut.
* `Tame`                      — the characters that may stand in an authority.
-/

namespace Appliance.Url

open Appliance.Text

/-! ## Escapes -/

namespace Percent

/-- What escapes are written with. -/
def escapeMarks : List Char := "%0123456789ABCDEF".toList

theorem mem_escapeMarks : ∀ n < 16, Text.upperHexDigit n ∈ escapeMarks := by decide

/-- An escaped text holds what needed no escape, and escapes. -/
theorem mem_escape {set : EscapeSet} {cs : List Char} {c : Char} (h : c ∈ escape set cs) :
    (c ∈ cs ∧ mustEscape set c = false) ∨ c ∈ escapeMarks := by
  obtain ⟨x, hx, hc⟩ := List.mem_flatMap.1 h
  unfold escapeChar at hc
  split at hc
  · obtain ⟨b, -, hc⟩ := List.mem_flatMap.1 hc
    have hb : b.toNat < 256 := b.toNat_lt
    have hhigh := mem_escapeMarks (b.toNat / 16) (by omega)
    have hlow := mem_escapeMarks (b.toNat % 16) (by omega)
    right
    rcases List.mem_cons.1 hc with rfl | hc
    · decide
    · rcases List.mem_cons.1 hc with rfl | hc
      · exact hhigh
      · rw [List.mem_singleton.1 hc]
        exact hlow
  · next hkept =>
    rw [List.mem_singleton.1 hc]
    exact .inl ⟨hx, by simpa using hkept⟩

/-- Nothing is left to escape, if escapes are not escaped themselves. -/
theorem mustEscape_escape {set : EscapeSet} (hset : ∀ c ∈ escapeMarks, mustEscape set c = false)
    (cs : List Char) : ∀ c ∈ escape set cs, mustEscape set c = false := by
  intro c hc
  rcases mem_escape hc with ⟨-, hkept⟩ | hmark
  · exact hkept
  · exact hset c hmark

theorem userSet_keeps_marks : ∀ c ∈ escapeMarks, mustEscape userSet c = false :=
  List.all_iff_forall_prop.1 (by decide)

/-- What needs no escape is visible, if blanks need one. -/
theorem visible_of_kept {set : EscapeSet} (hset : ' ' ∈ set) {c : Char}
    (h : mustEscape set c = false) : Visible c := by
  simp only [mustEscape, Bool.or_eq_false_iff, decide_eq_false_iff_not, List.contains_eq_mem] at h
  obtain ⟨⟨hlow, hhigh⟩, hkept⟩ := h
  have hspace : c.toNat ≠ 0x20 := by
    intro hcode
    have hc : c = ' ' := Char.toNat_inj.1 hcode
    exact hkept (hc ▸ hset)
  exact ⟨by omega, by omega⟩

theorem length_octets (c : Char) :
    (Octets.ofText (String.singleton c)).length = c.utf8Size := by
  rw [Octets.ofText, Array.length_toList]
  exact String.utf8ByteSize_singleton

theorem escapeChar_ne_nil (set : EscapeSet) (c : Char) : escapeChar set c ≠ [] := by
  unfold escapeChar
  split
  · have hlength := length_octets c
    have hpos := c.utf8Size_pos
    cases hoctets : Octets.ofText (String.singleton c) with
    | nil =>
      rw [hoctets, List.length_nil] at hlength
      omega
    | cons b rest => simp [escapeOctet]
  · simp

theorem escape_ne_nil {cs : List Char} (h : cs ≠ []) : escape userSet cs ≠ [] := by
  cases cs with
  | nil => exact absurd rfl h
  | cons c rest =>
    intro hnil
    have hfirst : escapeChar userSet c = [] := (List.append_eq_nil_iff.1 hnil).1
    exact escapeChar_ne_nil userSet c hfirst

end Percent

/-! ## User information -/

namespace User

/-- `Tidy u`: the parts of `u` are escaped, and there is no empty password. -/
structure Tidy (u : User) : Prop where
  name : ∀ c ∈ u.name, Percent.mustEscape Percent.userSet c = false
  password : ∀ p, u.password = some p → p ≠ [] ∧
    ∀ c ∈ p, Percent.mustEscape Percent.userSet c = false

theorem tidy_none : none.Tidy where
  name := by simp [none]
  password := by simp [none]

theorem tidy_read (cs : List Char) : (read cs).Tidy where
  name := Percent.mustEscape_escape Percent.userSet_keeps_marks _
  password := by
    intro p hp
    simp only [read] at hp
    split at hp
    · cases hp
    · next hne =>
      obtain rfl := Option.some.inj hp
      exact ⟨Percent.escape_ne_nil (by simpa using hne),
        Percent.mustEscape_escape Percent.userSet_keeps_marks _⟩

/-- What is written as nothing is nothing. -/
theorem eq_none_of_chars {u : User} (h : u.chars = []) : u = none := by
  obtain ⟨name, password⟩ := u
  cases password with
  | some p => simp [chars] at h
  | none =>
    cases name with
    | nil => rfl
    | cons c name => simp [chars] at h

/-- Escaped parts are read as they are written. -/
theorem read_chars {u : User} (h : u.Tidy) (hne : u.chars ≠ []) :
    ∃ body, u.chars = body ++ ['@'] ∧ read body = u := by
  have hcolon : ∀ c ∈ u.name, decide (c ≠ ':') = true := by
    intro c hc
    have hkept := h.name c hc
    by_contra hnot
    obtain rfl : c = ':' := by simpa using hnot
    simp [Percent.mustEscape, Percent.userSet] at hkept
  obtain ⟨name, password⟩ := u
  cases password with
  | none =>
    have hcolon : ∀ c ∈ name, decide (c ≠ ':') = true := hcolon
    refine ⟨name, ?_, ?_⟩
    · have hname : name ≠ [] := by
        rintro rfl
        exact hne rfl
      simp [chars, hname]
    · unfold read
      rw [List.takeWhile_eq_self_iff.2 hcolon, List.dropWhile_eq_nil_iff.2 hcolon]
      simp [Percent.escape_eq_self h.name]
  | some p =>
    obtain ⟨hp, hkept⟩ := h.password p rfl
    refine ⟨name ++ ':' :: p, by simp [chars], ?_⟩
    simp only [read, List.takeWhile_append_of_pos hcolon, List.dropWhile_append_of_pos hcolon]
    simp [hp, Percent.escape_eq_self h.name, Percent.escape_eq_self hkept]

end User

/-! ## Ports -/

/-- The digits of a port are read as that port. -/
theorem readPort_toDigits {n : Nat} (h : n ≤ portLimit) :
    (Nat.toDigits 10 n).foldl (fun n c => min (10 * n + (c.toNat - 48)) (portLimit + 1)) 0 = n := by
  refine foldl_toDigits (fun m d hd hm => ?_) h
  rw [value_digitChar d hd]
  omega

theorem readPort_portChars {port : Option Nat} (h : ∀ n, port = some n → n ≤ portLimit) :
    readPort (Web.portChars port) = .ok port := by
  cases port with
  | none => rfl
  | some n =>
    have hdigit : ∀ c ∈ Nat.toDigits 10 n, c.isDigit = true := fun c hc =>
      Nat.isDigit_of_mem_toDigits (by decide) (by decide) hc
    have hkept : ∀ c ∈ Nat.toDigits 10 n, decide (c ≠ '\\') = true := by
      intro c hc
      have hc := hdigit c hc
      by_contra hnot
      obtain rfl : c = '\\' := by simpa using hnot
      cases hc
    have hn := h n rfl
    simp only [readPort, Web.portChars, toList_toString, List.takeWhile_eq_self_iff.2 hkept,
      List.all_eq_true.2 hdigit, readPort_toDigits hn]
    simp [Nat.toDigits_ne_nil, hn]

/-- What is read as a port is one. -/
theorem le_of_readPort {cs : List Char} {n : Nat} (h : readPort cs = .ok (some n)) :
    n ≤ portLimit := by
  unfold readPort at h
  split at h
  · cases h
  · simp only at h
    split at h
    · split at h
      · cases h
      · split at h
        · next hle =>
          cases h
          exact hle
        · cases h
    · cases h

/-! ## Splitting -/

theorem splitUser_of_not_mem {cs : List Char} (h : '@' ∉ cs) : splitUser cs = none := by
  simp [splitUser, h]

/-- The user information ends at the last at-sign. -/
theorem splitUser_append {body server : List Char} (h : '@' ∉ server) :
    splitUser (body ++ '@' :: server) = some (body, server) := by
  have hkept : ∀ c ∈ server.reverse, decide (c ≠ '@') = true := by
    intro c hc
    have hc : c ∈ server := List.mem_reverse.1 hc
    simp only [ne_eq, decide_eq_true_eq]
    rintro rfl
    exact h hc
  have hserver : ((body ++ '@' :: server).reverse.takeWhile (· ≠ '@')).reverse = server := by
    rw [List.reverse_append, List.reverse_cons, List.append_assoc,
      List.takeWhile_append_of_pos hkept]
    simp
  have hcontains : (body ++ '@' :: server).contains '@' = true := by simp
  have hlength : (body ++ '@' :: server).length - server.length - 1 = body.length := by
    simp only [List.length_append, List.length_cons]
    omega
  simp only [splitUser, hcontains, if_true, hserver, hlength, List.take_left]

theorem splitPort_of_plain {cs rest : List Char} (h : ∀ c ∈ cs, Plain c) :
    splitPort false (cs ++ rest) = (cs ++ (splitPort false rest).1, (splitPort false rest).2) := by
  induction cs with
  | nil => rfl
  | cons c cs ih =>
    obtain ⟨hc, hcs⟩ := List.forall_mem_cons.1 h
    have hmarks : c ≠ ':' ∧ c ≠ '[' ∧ c ≠ ']' := by
      refine ⟨?_, ?_, ?_⟩ <;> rintro rfl <;> revert hc <;> decide
    obtain ⟨hcolon, hopen, hclose⟩ := hmarks
    simp only [List.cons_append, splitPort, hcolon, hopen, hclose, false_and, if_false, ih hcs]

theorem splitPort_in_brackets {inner rest : List Char}
    (h : ∀ c ∈ inner, c.isAlphanum = true ∨ c = ':') :
    splitPort true (inner ++ ']' :: rest) =
      (inner ++ ']' :: (splitPort false rest).1, (splitPort false rest).2) := by
  induction inner with
  | nil => simp [splitPort]
  | cons c inner ih =>
    obtain ⟨hc, hinner⟩ := List.forall_mem_cons.1 h
    have hmarks : c ≠ '[' ∧ c ≠ ']' := by
      refine ⟨?_, ?_⟩ <;> rintro rfl <;> revert hc <;> decide
    obtain ⟨hopen, hclose⟩ := hmarks
    simp [splitPort, hopen, hclose, ih hinner]

/-- The port begins after the host. -/
theorem splitPort_host (h : Host) (port : Option Nat) :
    splitPort false (h.chars ++ Web.portChars port) = (h.chars, Web.portChars port) := by
  have hport : splitPort false (Web.portChars port) = ([], Web.portChars port) := by
    cases port <;> simp [Web.portChars, splitPort]
  rcases host_kinds h with ⟨hplain, -⟩ | ⟨inner, heq, hinner⟩
  · rw [splitPort_of_plain hplain, hport, List.append_nil]
  · have hsplit : splitPort true (inner ++ ']' :: Web.portChars port) = _ :=
      splitPort_in_brackets hinner
    rw [hport] at hsplit
    rw [heq]
    simp [splitPort, hsplit]

/-! ## Authorities -/

/-- `Tame c`: the character may stand in an authority. -/
def Tame (c : Char) : Prop := Visible c ∧ c ∉ "/?#\\".toList

instance (c : Char) : Decidable (Tame c) := inferInstanceAs (Decidable (_ ∧ _))

theorem Plain.tame {c : Char} (h : Plain c) : Tame c := by
  obtain ⟨hvisible, hmem⟩ := h
  have hsubset : ∀ c ∈ "/?#\\".toList, c ∈ "%#/:<>?@[\\]^|".toList :=
    List.all_iff_forall_prop.1 (by decide)
  exact ⟨hvisible, fun hc => hmem (hsubset c hc)⟩

theorem tame_of_kept {c : Char} (h : Percent.mustEscape Percent.userSet c = false) : Tame c := by
  have hmarks : ∀ c ∈ "/?#\\".toList, Percent.mustEscape Percent.userSet c = true :=
    List.all_iff_forall_prop.1 (by decide)
  refine ⟨Percent.visible_of_kept (by decide) h, fun hc => ?_⟩
  rw [hmarks c hc] at h
  cases h

theorem User.tame_chars {u : User} (h : u.Tidy) : ∀ c ∈ u.chars, Tame c := by
  have hname : ∀ c ∈ u.name, Tame c := fun c hc => tame_of_kept (h.name c hc)
  intro c hc
  unfold chars at hc
  split at hc
  · next p hp =>
    simp only [List.mem_append, List.mem_cons, List.not_mem_nil, or_false] at hc
    rcases hc with (hc | rfl | hc) | rfl
    · exact hname c hc
    · decide
    · exact tame_of_kept ((h.password p hp).2 c hc)
    · decide
  · split at hc
    · cases hc
    · rcases List.mem_append.1 hc with hc | hc
      · exact hname c hc
      · rw [List.mem_singleton.1 hc]
        decide

theorem tame_host (h : Host) : ∀ c ∈ h.chars, Tame c ∧ c ≠ '@' := by
  intro c hc
  have hplain : ∀ c, Plain c → Tame c ∧ c ≠ '@' := by
    intro c hc
    refine ⟨hc.tame, ?_⟩
    rintro rfl
    revert hc
    decide
  rcases host_kinds h with ⟨hall, -⟩ | ⟨inner, heq, hinner⟩
  · exact hplain c (hall c hc)
  · rw [heq] at hc
    simp only [List.cons_append, List.mem_cons, List.mem_append, List.not_mem_nil, or_false] at hc
    rcases hc with rfl | hc | rfl
    · decide
    · rcases hinner c hc with hc | rfl
      · exact hplain c (plain_of_isAlphanum hc)
      · decide
    · decide

theorem tame_portChars (port : Option Nat) : ∀ c ∈ Web.portChars port, Tame c ∧ c ≠ '@' := by
  cases port with
  | none => simp [Web.portChars]
  | some n =>
    intro c hc
    rcases List.mem_cons.1 hc with rfl | hc
    · decide
    · rw [toList_toString] at hc
      obtain ⟨d, hd, rfl⟩ := mem_toDigits (by decide) hc
      have hall : ∀ d < 10, Tame d.digitChar ∧ d.digitChar ≠ '@' := by decide
      exact hall d hd

end Appliance.Url
