import Appliance.Address
import Appliance.Proofs.Url.Web

/-!
# Addresses keep their origin

The URLs of an appliance are put together from the written form of its address and a path,
with the slashes between them put in order. This file shows that no path leads to another
server.

* `tidy_of_read`      — what is read as an address is tidy.
* `stem_eq`           — the slashes at the end of an address are those of its path.
* `exists_urlFor`     — the URL of a path is the origin of the address, and some path.
* **`address_keeps_origin`** — whatever the path, the URL has the scheme, the host and the port
  of the address, which is secure or on this machine.
-/

namespace Appliance

open Appliance.Url

namespace Address

/-! ## What is read -/

/-- What is read as an address is a web address. -/
theorem exists_read {s : String} {a : Address} (h : read s = .ok a) :
    ∃ cs, Url.read cs = .ok (.web a.web) := by
  unfold read readTrimmed at h
  simp only at h
  split at h
  · cases h
  · split at h
    · cases h
    · cases h
    · cases h
    · next web hread =>
      split at h
      · cases h
        exact ⟨_, hread⟩
      · cases h

/-- What is read as an address is tidy. -/
theorem tidy_of_read {s : String} {a : Address} (h : read s = .ok a) : a.web.Tidy := by
  obtain ⟨cs, hread⟩ := exists_read h
  exact Url.tidy_of_read hread

/-! ## What is written -/

/-- Slashes at the end are dropped from behind a character that is none. -/
theorem dropLastSlashes_append {before after : List Char} (h : ∀ c ∈ before.getLast?, c ≠ '/') :
    dropLastSlashes (before ++ after) = before ++ dropLastSlashes after := by
  unfold dropLastSlashes
  rcases List.eq_nil_or_concat before with rfl | ⟨front, last, rfl⟩
  · rfl
  · have hlast : (last == '/') = false := by simpa using h last (by simp)
    have hreverse : (front.concat last ++ after).reverse =
        after.reverse ++ last :: front.reverse := by simp
    rw [hreverse, Url.dropWhile_append_cons (p := (· == '/')) hlast]
    simp

/-- Without slashes at the end a path is empty, or begins as before. -/
theorem opens_dropLastSlashes {cs : List Char} (h : Web.Opens cs) :
    Web.Opens (dropLastSlashes cs) := by
  have hinitial : dropLastSlashes cs <+: cs := by
    have hsuffix := List.dropWhile_suffix (· == '/') (l := cs.reverse)
    rw [dropLastSlashes, ← List.reverse_suffix, List.reverse_reverse]
    exact hsuffix
  cases hdropped : dropLastSlashes cs with
  | nil => exact .nil
  | cons c rest =>
    rw [hdropped] at hinitial
    cases h with
    | nil => exact absurd (List.prefix_nil.1 hinitial) (List.cons_ne_nil c rest)
    | slash path =>
      rw [(List.cons_prefix_cons.1 hinitial).1]
      exact .slash rest

/-- The slashes at the end of an address are those of its path. -/
theorem stem_eq {a : Address} (ha : a.web.Tidy) :
    a.stem = a.web.origin ++ dropLastSlashes (Web.pathChars a.web.path) := by
  have hlast : ∀ c ∈ a.web.origin.getLast?, c ≠ '/' := by
    intro c hc
    have hne : a.web.authority ≠ [] := by
      simp [Web.authority, Web.host_ne_nil]
    have hmem : c ∈ a.web.authority := by
      rw [Web.origin, List.getLast?_append_of_ne_nil _ hne] at hc
      exact List.mem_of_getLast? hc
    rintro rfl
    exact (ha.tame _ hmem).2 (by decide)
  rw [stem, Web.chars_eq, dropLastSlashes_append hlast]

/-- The URL of a path is the origin of the address, and some path. -/
theorem exists_urlFor {a : Address} (ha : a.web.Tidy) (p : String) :
    ∃ path, (a.urlFor p).toList = a.web.origin ++ '/' :: path := by
  have hopens := opens_dropLastSlashes (Web.opens_pathChars a.web.path)
  rw [urlFor, String.toList_ofList, stem_eq ha, List.append_assoc]
  generalize dropLastSlashes (Web.pathChars a.web.path) = rest at hopens
  cases hopens with
  | nil => exact ⟨_, rfl⟩
  | slash path => exact ⟨_, rfl⟩

theorem socketUrl_scheme (secure : Bool) (rest : List Char) :
    socketUrl ((Web.scheme secure).toList ++ "://".toList ++ rest) =
      (if secure then "wss" else "ws").toList ++ "://".toList ++ rest := by
  cases secure <;> rfl

/-- The URL of the event hub is that of its path, for a websocket. -/
theorem eventUrl_eq {a : Address} (ha : a.web.Tidy) :
    ∃ rest, a.urlFor eventPath = Web.scheme a.isSecure ++ "://" ++ rest ∧
      a.eventUrl = (if a.isSecure then "wss" else "ws") ++ "://" ++ rest := by
  obtain ⟨path, hpath⟩ := exists_urlFor ha eventPath
  refine ⟨String.ofList (a.web.authority ++ '/' :: path), ?_, ?_⟩
  · refine String.toList_inj.1 ?_
    simp [hpath, Web.origin, isSecure]
  · refine String.toList_inj.1 ?_
    rw [eventUrl, hpath, Web.origin, String.toList_ofList, List.append_assoc, socketUrl_scheme]
    simp only [isSecure, String.toList_append, String.toList_ofList]
    rfl

end Address

/-- **Addresses keep their origin.**  An address is secure, or its host is this machine. The
URL of any path on the appliance, and so those of the token service and of the list of identity
providers, is read as a web address with the scheme, the user information, the host and the
port of the address. The URL of the event hub is that of its path with the scheme of a
websocket, the secure one exactly if the address is secure. -/
theorem address_keeps_origin {s : String} {a : Address} (h : Address.read s = .ok a) :
    (a.isSecure = true ∨ a.host = "localhost" ∨ a.host = "127.0.0.1" ∨ a.host = "[::1]") ∧
      (∀ url, (∃ p, url = a.urlFor p) ∨ url = a.tokenUrl ∨ url = a.lookupUrl →
        ∃ w, Url.read url.toList = .ok (.web w) ∧ a.web.SameOrigin w) ∧
      ∃ rest, a.urlFor Address.eventPath = Web.scheme a.isSecure ++ "://" ++ rest ∧
        a.eventUrl = (if a.isSecure then "wss" else "ws") ++ "://" ++ rest := by
  have ha := Address.tidy_of_read h
  have hpath : ∀ p, ∃ w, Url.read (a.urlFor p).toList = .ok (.web w) ∧ a.web.SameOrigin w := by
    intro p
    obtain ⟨path, hurl⟩ := Address.exists_urlFor ha p
    rw [hurl]
    exact read_origin ha path
  refine ⟨?_, ?_, Address.eventUrl_eq ha⟩
  · rcases a.secure_or_local with hsecure | hlocal
    · exact .inl hsecure
    · exact .inr (by simpa [isLocalHost] using hlocal)
  · rintro url (⟨p, rfl⟩ | rfl | rfl)
    · exact hpath p
    · exact hpath Address.tokenPath
    · exact hpath Address.lookupPath

/-- An address on this machine, and a path that looks like one of another server. -/
theorem address_keeps_origin_loopback :
    ∃ a, Address.read "http://me:x@[::1]:8443//" = .ok a ∧ a.isSecure = false ∧
      a.host = "[::1]" ∧ a.urlFor "//@other:1/" = "http://me:x@[::1]:8443/@other:1/" ∧
      ∃ w, Url.read "http://me:x@[::1]:8443/@other:1/".toList = .ok (.web w) ∧
        w.host.text = "[::1]" ∧ w.port = some 8443 := by
  have hread : (Address.read "http://me:x@[::1]:8443//").toOption.map
      (fun a => (a.isSecure, a.host, a.web.port, a.urlFor "//@other:1/")) =
        some (false, "[::1]", some 8443, "http://me:x@[::1]:8443/@other:1/") := by decide +kernel
  cases ha : Address.read "http://me:x@[::1]:8443//" with
  | error f =>
    rw [ha] at hread
    cases hread
  | ok a =>
    rw [ha] at hread
    obtain ⟨hsecure, hread⟩ := Prod.mk.inj (Option.some.inj hread)
    obtain ⟨hhost, hread⟩ := Prod.mk.inj hread
    obtain ⟨hport, hurl⟩ := Prod.mk.inj hread
    obtain ⟨w, hw, hsame⟩ := (address_keeps_origin ha).2.1 _ (.inl ⟨"//@other:1/", rfl⟩)
    rw [hurl] at hw
    refine ⟨a, rfl, hsecure, hhost, hurl, w, hw, ?_, ?_⟩
    · rw [hsame.host]
      exact hhost
    · rw [hsame.port, hport]

end Appliance
