import Appliance.Proofs.Subscriptions.Names

/-!
# The entries of a registry

A registry keeps its named handlers in a list. This file shows that it is a map from names
to handlers, read and changed at one name at a time.

* `lookup_put`, `lookup_filter` — what a changed list has under a name.
* `named?_register`, `named?_unregister` — the same of a changed registry.
* `Tidy` — the invariant: the names are normal forms, in ascending order.
* **`tidy_register`, `tidy_unregister`** — every change keeps the registry tidy.
* `mem_names_iff` — a registry has the names that it has handlers of.
-/

namespace Appliance.Subscriptions

variable {α : Type}

/-! ## Lists of entries -/

/-- What a list has under a name: its first entry, or else what the others have. -/
theorem lookup_cons_eq (k : String) (h : α) (rest : List (String × α)) (n : String) :
    ((k, h) :: rest).lookup n = if n = k then some h else rest.lookup n := by
  rw [List.lookup_cons]
  by_cases hn : n = k
  · subst hn
    simp
  · rw [beq_false_of_ne hn, if_neg hn]

/-- What a list has under a name after a handler was put into it. -/
theorem lookup_put (name : String) (h : α) (named : List (String × α)) (n : String) :
    (put name h named).lookup n = if n = name then some h else named.lookup n := by
  induction named with
  | nil => rw [put, lookup_cons_eq]
  | cons e rest ih =>
    obtain ⟨k, g⟩ := e
    unfold put
    split
    · next heq =>
      subst heq
      rw [lookup_cons_eq, lookup_cons_eq]
      by_cases hn : n = name
      · rw [if_pos hn, if_pos hn]
      · rw [if_neg hn, if_neg hn, if_neg hn]
    · next hne =>
      split
      · rw [lookup_cons_eq]
      · rw [lookup_cons_eq, ih, lookup_cons_eq]
        by_cases hn : n = k
        · -- the entry stays, since it has another name
          subst hn
          rw [if_pos rfl, if_neg (Ne.symm hne), if_pos rfl]
        · rw [if_neg hn, if_neg hn]

/-- What a list has under a name after an entry was removed. -/
theorem lookup_filter (name : String) (named : List (String × α)) (n : String) :
    (named.filter fun e => !(e.1 == name)).lookup n =
      if n = name then none else named.lookup n := by
  induction named with
  | nil => simp
  | cons e rest ih =>
    obtain ⟨k, g⟩ := e
    rw [lookup_cons_eq]
    by_cases hk : k = name
    · rw [List.filter_cons_of_neg (by simp [hk]), ih]
      by_cases hn : n = name
      · rw [if_pos hn, if_pos hn]
      · rw [if_neg hn, if_neg hn, if_neg fun heq => hn (heq.trans hk)]
    · rw [List.filter_cons_of_pos (by simp [hk]), lookup_cons_eq, ih]
      by_cases hn : n = k
      · rw [if_pos hn, if_neg fun heq => hk (hn.symm.trans heq), if_pos hn]
      · rw [if_neg hn, if_neg hn]

/-- The names in a list after a handler was put into it. -/
theorem mem_put {name : String} {h : α} {named : List (String × α)} {k : String}
    (hk : k ∈ (put name h named).map (·.1)) : k = name ∨ k ∈ named.map (·.1) := by
  induction named with
  | nil => simpa [put] using hk
  | cons e rest ih =>
    obtain ⟨k', h'⟩ := e
    unfold put at hk
    split at hk
    · next heq =>
      subst heq
      simpa using hk
    · split at hk
      · simpa using hk
      · rcases List.mem_cons.1 hk with rfl | hk
        · exact .inr (by simp)
        · exact (ih hk).imp_right (List.mem_cons_of_mem _)

/-- A handler is put where the names stay in ascending order. -/
theorem ascending_put (name : String) (h : α) {named : List (String × α)}
    (hnamed : (named.map (·.1)).Pairwise (· < ·)) :
    ((put name h named).map (·.1)).Pairwise (· < ·) := by
  induction named with
  | nil => simp [put]
  | cons e rest ih =>
    obtain ⟨k, g⟩ := e
    rw [List.map_cons, List.pairwise_cons] at hnamed
    obtain ⟨hfirst, hrest⟩ := hnamed
    unfold put
    split
    · next heq =>
      subst heq
      exact List.pairwise_cons.2 ⟨hfirst, hrest⟩
    · next hne =>
      split
      · next hlt =>
        refine List.pairwise_cons.2 ⟨fun k' hk' => ?_, List.pairwise_cons.2 ⟨hfirst, hrest⟩⟩
        rcases List.mem_cons.1 hk' with rfl | hk'
        · exact hlt
        · exact String.lt_trans hlt (hfirst k' hk')
      · next hge =>
        have hlt : k < name := Std.lt_of_le_of_ne (String.not_lt.1 hge) (Ne.symm hne)
        refine List.pairwise_cons.2 ⟨fun k' hk' => ?_, ih hrest⟩
        rcases mem_put hk' with rfl | hk'
        · exact hlt
        · exact hfirst k' hk'

/-! ## Registries -/

variable (s : Subscriptions α)

/-- What a registry has under a name after a handler was registered. -/
theorem named?_register (name : String) (h : α) (n : String) :
    (s.register name h).named? n =
      if normalize n = normalize name then some h else s.named? n :=
  lookup_put (normalize name) h s.named (normalize n)

/-- What a registry has under a name after one was removed. -/
theorem named?_unregister (name n : String) :
    (s.unregister name).named? n =
      if normalize n = normalize name then none else s.named? n :=
  lookup_filter (normalize name) s.named (normalize n)

variable {s}

/-- `Tidy s`: the names are normal forms, in ascending order. -/
structure Tidy (s : Subscriptions α) : Prop where
  ascending : s.names.Pairwise (· < ·)
  normal : ∀ n ∈ s.names, normalize n = n

theorem tidy_empty : Tidy (empty : Subscriptions α) :=
  ⟨List.Pairwise.nil, fun _ hn => absurd hn List.not_mem_nil⟩

/-- **Registering a handler keeps the registry tidy.** -/
theorem tidy_register (hs : Tidy s) (name : String) (h : α) : Tidy (s.register name h) where
  ascending := ascending_put (normalize name) h hs.ascending
  normal n hn := by
    rcases mem_put hn with rfl | hn
    · exact normalize_normalize name
    · exact hs.normal n hn

/-- **Removing a name keeps the registry tidy.** -/
theorem tidy_unregister (hs : Tidy s) (name : String) : Tidy (s.unregister name) := by
  have hsublist : (s.unregister name).names.Sublist s.names :=
    List.Sublist.map _ List.filter_sublist
  exact ⟨hs.ascending.sublist hsublist, fun n hn => hs.normal n (hsublist.subset hn)⟩

/-- A tidy registry has the names that it has handlers of. -/
theorem mem_names_iff (hs : Tidy s) (n : String) :
    n ∈ s.names ↔ normalize n = n ∧ ∃ h, s.named? n = some h := by
  constructor
  · intro hn
    have hnormal := hs.normal n hn
    obtain ⟨e, he, rfl⟩ := List.mem_map.1 hn
    refine ⟨hnormal, Option.isSome_iff_exists.1 ?_⟩
    rw [named?, hnormal, List.lookup_isSome_iff]
    exact ⟨e, he, beq_self_eq_true _⟩
  · rintro ⟨hnormal, h, hh⟩
    rw [named?, hnormal, List.lookup_eq_some_iff] at hh
    obtain ⟨before, after, hnamed, -⟩ := hh
    exact List.mem_map.2 ⟨(n, h), by simp [hnamed], rfl⟩

/-- Whether a name is registered. -/
theorem isRegistered_iff (name : String) :
    s.isRegistered name = true ↔ ∃ h, s.named? name = some h := by
  rw [← Option.isSome_iff_exists, named?, List.lookup_isSome_iff, isRegistered, List.any_eq_true]
  refine exists_congr fun e => and_congr_right fun _ => ?_
  rw [beq_iff_eq, beq_iff_eq, eq_comm]

/-- A registry is empty when it has no handler of either kind. -/
theorem isEmpty_iff (hs : Tidy s) :
    s.isEmpty = true ↔ (∀ name, s.named? name = none) ∧ s.all = none := by
  rw [isEmpty, Bool.and_eq_true, Option.isNone_iff_eq_none, List.isEmpty_iff]
  refine and_congr_left fun _ => ⟨fun hnil name => by rw [named?, hnil, List.lookup_nil], ?_⟩
  intro hnone
  have hnames : s.names = [] := by
    refine List.eq_nil_iff_forall_not_mem.2 fun n hn => ?_
    obtain ⟨-, h, hh⟩ := (mem_names_iff hs n).1 hn
    rw [hnone n] at hh
    cases hh
  exact List.map_eq_nil_iff.1 hnames

/-- The handler of an event is that of its name, or else the one for all events. -/
theorem select_eq_some_iff {name : String} {h : α} :
    s.select name = some h ↔
      s.named? name = some h ∨ (∀ h', s.named? name ≠ some h') ∧ s.all = some h := by
  rw [select, Option.or_eq_some_iff, Option.eq_none_iff_forall_ne_some]

end Appliance.Subscriptions
