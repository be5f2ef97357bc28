import Appliance.Proofs.Histories
import Appliance.Proofs.Subscriptions.Entries

/-!
# The history of a registry

What a registry has to do can be told without it, by what was changed before: under a name
stands the handler that was last registered under this name and not removed since. This file
says so, and shows that a registry tells its history.

* `Change` — a change of what is registered.
* `Live`, `LiveForAll` — the handlers that were registered last, and not removed since.
* `Chosen` — the handler that an event is for.
* `Listed` — the live names.
* `Represents` — a registry that has what its history tells.
* **`represents_register`, `represents_registerAll`, `represents_unregister`** — every change
  is represented.
* **`isRegistered_iff_live`, `select_iff_chosen`, `listed_names`, `isEmpty_iff_not_live`** —
  what a registry says is what its history tells.
-/

namespace Appliance.Subscriptions

/-- A change of what is registered. -/
inductive Change (α : Type) where
  | register (name : String) (h : α)
  | registerAll (h : α)
  | unregister (name : String)

variable {α : Type}

namespace Change

/-- `c.Concerns name`: the change is one of the handler that stands under the name. -/
def Concerns (name : String) : Change α → Prop
  | .register n _ | .unregister n => SameName n name
  | .registerAll _ => False

/-- `c.ConcernsRest`: the change is one of the handler of all other events. -/
def ConcernsRest : Change α → Prop
  | .registerAll _ => True
  | _ => False

end Change

/-- `Live past name h`: the handler was registered last under the name, and not removed
since. -/
def Live (past : List (Change α)) (name : String) (h : α) : Prop :=
  ∃ n, Latest (·.Concerns name) past (.register n h)

/-- `LiveForAll past h`: the handler was registered last for all other events. -/
def LiveForAll (past : List (Change α)) (h : α) : Prop :=
  Latest (·.ConcernsRest) past (.registerAll h)

/-- `Chosen past name h`: the handler is that of the name, or else the one for all events. -/
def Chosen (past : List (Change α)) (name : String) (h : α) : Prop :=
  Live past name h ∨ (∀ h', ¬Live past name h') ∧ LiveForAll past h

/-- `Listed past ns`: the live names are these. -/
structure Listed (past : List (Change α)) (ns : List String) : Prop where
  ascending : ns.Pairwise (· < ·)
  /-- They are the normal forms of the names under which handlers stand. -/
  mem_iff : ∀ n, n ∈ ns ↔ ∃ name h, Live past name h ∧ normalize name = n
  /-- Under each of them stands a handler: that of the names of which it is the normal
  form. -/
  addresses : ∀ n ∈ ns, (∃ h, Live past n h) ∧ ∀ name, SameName n name ↔ normalize name = n

/-! ## One more change -/

section

variable {past : List (Change α)} {name n : String} {h h' : α}

theorem live_register :
    Live (past ++ [.register name h]) n h' ↔
      SameName name n ∧ h' = h ∨ ¬SameName name n ∧ Live past n h' := by
  simp only [Live, latest_snoc, Change.Concerns, Change.register.injEq, exists_or,
    exists_and_left, exists_eq_left]

theorem live_registerAll : Live (past ++ [.registerAll h]) n h' ↔ Live past n h' := by
  simp only [Live, latest_snoc, Change.Concerns, false_and, not_false_eq_true, true_and, false_or]

theorem live_unregister :
    Live (past ++ [.unregister name]) n h' ↔ ¬SameName name n ∧ Live past n h' := by
  simp only [Live, latest_snoc, Change.Concerns, reduceCtorEq, and_false, false_or,
    exists_and_left]

theorem liveForAll_register : LiveForAll (past ++ [.register name h]) h' ↔ LiveForAll past h' := by
  simp only [LiveForAll, latest_snoc, Change.ConcernsRest, false_and, not_false_eq_true, true_and,
    false_or]

theorem liveForAll_registerAll : LiveForAll (past ++ [.registerAll h]) h' ↔ h' = h := by
  simp only [LiveForAll, latest_snoc, Change.ConcernsRest, true_and, not_true_eq_false, false_and,
    or_false, Change.registerAll.injEq]

theorem liveForAll_unregister : LiveForAll (past ++ [.unregister name]) h' ↔ LiveForAll past h' := by
  simp only [LiveForAll, latest_snoc, Change.ConcernsRest, false_and, not_false_eq_true, true_and,
    false_or]

/-- Names that are the same have the same handler. -/
theorem live_congr (hsame : SameName n name) : Live past n h ↔ Live past name h := by
  have hconcerns : ∀ c : Change α, c.Concerns n ↔ c.Concerns name := by
    intro c
    cases c with
    | registerAll _ => exact Iff.rfl
    | register k _ | unregister k =>
      simp only [Change.Concerns, sameName_iff, sameName_iff.1 hsame]
  simp only [Live, Latest, hconcerns]

end

/-! ## Registries and histories -/

/-- `Represents past s`: the registry has what its history tells. -/
structure Represents (past : List (Change α)) (s : Subscriptions α) : Prop where
  named : ∀ name h, s.named? name = some h ↔ Live past name h
  all : ∀ h, s.all = some h ↔ LiveForAll past h
  tidy : Tidy s

theorem represents_empty : Represents [] (empty : Subscriptions α) where
  named name h := iff_of_false (by simp [named?, empty]) fun ⟨_, hn⟩ => not_latest_nil hn
  all h := iff_of_false (by simp [empty]) not_latest_nil
  tidy := tidy_empty

section Represents

variable {past : List (Change α)} {s : Subscriptions α} (hs : Represents past s)
include hs

/-- **A handler that is registered under a name is represented.** -/
theorem represents_register (name : String) (h : α) :
    Represents (past ++ [.register name h]) (s.register name h) where
  named n h' := by
    have hsame : SameName name n ↔ normalize n = normalize name := sameName_iff.trans eq_comm
    rw [named?_register, live_register, hsame, ← hs.named]
    by_cases hn : normalize n = normalize name
    · simp [hn, eq_comm]
    · simp [hn]
  all h' := by
    rw [liveForAll_register, ← hs.all]
    rfl
  tidy := tidy_register hs.tidy name h

/-- **A handler that is registered for all other events is represented.** -/
theorem represents_registerAll (h : α) :
    Represents (past ++ [.registerAll h]) (s.registerAll h) where
  named n h' := by
    rw [live_registerAll, ← hs.named]
    rfl
  all h' := by
    rw [liveForAll_registerAll, registerAll, Option.some_inj, eq_comm]
  tidy := ⟨hs.tidy.ascending, hs.tidy.normal⟩

/-- **A name that is removed is represented.** -/
theorem represents_unregister (name : String) :
    Represents (past ++ [.unregister name]) (s.unregister name) where
  named n h' := by
    have hsame : SameName name n ↔ normalize n = normalize name := sameName_iff.trans eq_comm
    rw [named?_unregister, live_unregister, hsame, ← hs.named]
    by_cases hn : normalize n = normalize name
    · simp [hn]
    · simp [hn]
  all h' := by
    rw [liveForAll_unregister, ← hs.all]
    rfl
  tidy := tidy_unregister hs.tidy name

/-- **A name is registered when a handler stands under it.** -/
theorem isRegistered_iff_live (name : String) :
    s.isRegistered name = true ↔ ∃ h, Live past name h := by
  rw [isRegistered_iff]
  exact exists_congr fun h => hs.named name h

/-- **The handler of an event is the one that the event is for.** -/
theorem select_iff_chosen (name : String) (h : α) : s.select name = some h ↔ Chosen past name h := by
  rw [select_eq_some_iff, Chosen, hs.named, hs.all]
  simp only [ne_eq, hs.named]

/-- **The names of a registry are the live ones.** -/
theorem listed_names : Listed past s.names where
  ascending := hs.tidy.ascending
  mem_iff n := by
    rw [mem_names_iff hs.tidy]
    constructor
    · rintro ⟨hnormal, h, hh⟩
      exact ⟨n, h, (hs.named n h).1 hh, hnormal⟩
    · rintro ⟨name, h, hlive, rfl⟩
      have hsame : SameName (normalize name) name := sameName_iff.2 (normalize_normalize name)
      exact ⟨normalize_normalize name, h, (hs.named _ h).2 ((live_congr hsame).2 hlive)⟩
  addresses n hn := by
    obtain ⟨hnormal, h, hh⟩ := (mem_names_iff hs.tidy n).1 hn
    refine ⟨⟨h, (hs.named n h).1 hh⟩, fun name => ?_⟩
    rw [sameName_iff, hnormal, eq_comm]

/-- **A registry is empty when no handler of either kind is live.** -/
theorem isEmpty_iff_not_live :
    s.isEmpty = true ↔ (∀ name h, ¬Live past name h) ∧ ∀ h, ¬LiveForAll past h := by
  simp only [isEmpty_iff hs.tidy, Option.eq_none_iff_forall_ne_some, ne_eq, hs.named, hs.all]

end Represents

/-- The live names can be listed in one way only. -/
theorem Listed.unique {past : List (Change α)} {ns ns' : List String} (h : Listed past ns)
    (h' : Listed past ns') : ns = ns' := by
  have hnodup : ∀ {l : List String}, l.Pairwise (· < ·) → l.Nodup := by
    intro l hl
    refine hl.imp ?_
    rintro a _ hab rfl
    exact String.lt_irrefl a hab
  have hperm : ns.Perm ns' := by
    refine (List.perm_ext_iff_of_nodup (hnodup h.ascending) (hnodup h'.ascending)).2 fun n => ?_
    rw [h.mem_iff, h'.mem_iff]
  exact hperm.eq_of_pairwise (fun _ _ _ _ hab hba => absurd hba (String.lt_asymm hab))
    h.ascending h'.ascending

end Appliance.Subscriptions
