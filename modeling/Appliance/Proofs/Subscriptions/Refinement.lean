import Appliance.Proofs.Subscriptions.History
import Appliance.Subscriptions.Deed

/-!
# What is done to a registry, and its history

Handlers may do to a registry whatever anybody may do to it, while it dispatches their event.
This file tells what is seen of such deeds by their history alone, and shows that exactly
this is seen of a registry, however deep the deeds of handlers are nested.

* `Does`, `DoesAll` — what is seen of deeds after some changes, and the changes after them.
* `does_run`, `doesAll_run` — what is seen of a registry is seen by its history.
* `run_of_does`, `runAll_of_doesAll` — nothing else is.
* **`registry_refines_history`** — a registry does what its history tells.
-/

namespace Appliance.Subscriptions

variable {α : Type}

mutual

/-- `Does past d seen past'`: after the changes `past`, `seen` is seen of the deed, and
`past'` are the changes after it. -/
inductive Does : List (Change α) → Deed α → List (Sight α) → List (Change α) → Prop where
  | register {past name h} :
    Does past (.register name h) [.answered .done] (past ++ [.register name h])
  | registerAll {past h} :
    Does past (.registerAll h) [.answered .done] (past ++ [.registerAll h])
  /-- A name is removed, and was live or not. -/
  | unregister {past name live} (hlive : live = true ↔ ∃ h, Live past name h) :
    Does past (.unregister name) [.answered (.flag live)] (past ++ [.unregister name])
  /-- The event is for no handler. -/
  | unmatched {past event inner ending} (hnone : ∀ h, ¬Chosen past event.name h) :
    Does past (.dispatch event inner ending) [.answered (.outcome .unmatched)] past
  /-- The event is for a handler, which is called with it and does all that it does. -/
  | called {past event inner ending h seen past' outcome} (hchosen : Chosen past event.name h)
    (hinner : DoesAll past inner seen past') (hmatched : outcome ≠ .unmatched)
    (hhandled : outcome = .handled ↔ ending = .returns) :
    Does past (.dispatch event inner ending)
      (.called h event :: (seen ++ [.answered (.outcome outcome)])) past'
  | names {past ns} (hlisted : Listed past ns) : Does past .names [.answered (.names ns)] past
  | isEmpty {past empty}
    (hempty : empty = true ↔ (∀ name h, ¬Live past name h) ∧ ∀ h, ¬LiveForAll past h) :
    Does past .isEmpty [.answered (.flag empty)] past

/-- `DoesAll past ds seen past'`: the same of deeds that are done one after the other. -/
inductive DoesAll : List (Change α) → List (Deed α) → List (Sight α) → List (Change α) → Prop where
  | nil {past} : DoesAll past [] [] past
  | cons {past d ds seen past' seen' past''} (hfirst : Does past d seen past')
    (hrest : DoesAll past' ds seen' past'') : DoesAll past (d :: ds) (seen ++ seen') past''

end

/-! ## What is seen of a registry -/

/-- How a handler ends decides what becomes of its event. -/
theorem outcome_iff (ending : Ending) (outcome : Outcome) :
    outcome ≠ .unmatched ∧ (outcome = .handled ↔ ending = .returns) ↔
      outcome = ending.outcome := by
  cases ending <;> cases outcome <;> simp [Ending.outcome]

mutual

/-- What is seen of a registry is seen by its history. -/
theorem does_run {past : List (Change α)} {s : Subscriptions α} (hs : Represents past s)
    (d : Deed α) : ∃ past', Does past d (d.run s).2 past' ∧ Represents past' (d.run s).1 := by
  cases d with
  | register name h => exact ⟨_, .register, represents_register hs name h⟩
  | registerAll h => exact ⟨_, .registerAll, represents_registerAll hs h⟩
  | unregister name =>
    exact ⟨_, .unregister (isRegistered_iff_live hs name), represents_unregister hs name⟩
  | dispatch event inner ending =>
    cases hselect : s.select event.name with
    | none =>
      refine ⟨past, ?_, ?_⟩
      · simp only [Deed.run, hselect]
        refine .unmatched fun h hchosen => ?_
        rw [(select_iff_chosen hs _ h).2 hchosen] at hselect
        cases hselect
      · simpa only [Deed.run, hselect] using hs
    | some h =>
      obtain ⟨past', hinner, hs'⟩ := doesAll_run hs inner
      obtain ⟨hmatched, hhandled⟩ := (outcome_iff ending _).2 rfl
      refine ⟨past', ?_, ?_⟩
      · simp only [Deed.run, hselect]
        exact .called ((select_iff_chosen hs _ h).1 hselect) hinner hmatched hhandled
      · simpa only [Deed.run, hselect] using hs'
  | names => exact ⟨past, .names (listed_names hs), hs⟩
  | isEmpty => exact ⟨past, .isEmpty (isEmpty_iff_not_live hs), hs⟩

/-- So is what is seen of deeds that are done one after the other. -/
theorem doesAll_run {past : List (Change α)} {s : Subscriptions α} (hs : Represents past s)
    (ds : List (Deed α)) :
    ∃ past', DoesAll past ds (runAll s ds).2 past' ∧ Represents past' (runAll s ds).1 := by
  cases ds with
  | nil => exact ⟨past, .nil, hs⟩
  | cons d rest =>
    obtain ⟨past', hfirst, hs'⟩ := does_run hs d
    obtain ⟨past'', hrest, hs''⟩ := doesAll_run hs' rest
    exact ⟨past'', .cons hfirst hrest, hs''⟩

end

mutual

/-- Nothing else is seen of a deed by the history of a registry. -/
theorem run_of_does {past : List (Change α)} {s : Subscriptions α} (hs : Represents past s)
    (d : Deed α) {seen : List (Sight α)} {past' : List (Change α)} (h : Does past d seen past') :
    seen = (d.run s).2 ∧ Represents past' (d.run s).1 := by
  cases d with
  | register name g =>
    cases h
    exact ⟨rfl, represents_register hs name g⟩
  | registerAll g =>
    cases h
    exact ⟨rfl, represents_registerAll hs g⟩
  | unregister name =>
    cases h with
    | unregister hlive =>
      have hflag := Bool.eq_iff_iff.2 (hlive.trans (isRegistered_iff_live hs name).symm)
      exact ⟨by rw [hflag]; rfl, represents_unregister hs name⟩
  | dispatch event inner ending =>
    cases h with
    | unmatched hnone =>
      have hselect : s.select event.name = none :=
        Option.eq_none_iff_forall_ne_some.2 fun g hg => hnone g ((select_iff_chosen hs _ g).1 hg)
      simp only [Deed.run, hselect]
      exact ⟨trivial, hs⟩
    | called hchosen hinner hmatched hhandled =>
      obtain ⟨rfl, hs'⟩ := runAll_of_doesAll hs inner hinner
      have hselect := (select_iff_chosen hs _ _).2 hchosen
      have houtcome := (outcome_iff ending _).1 ⟨hmatched, hhandled⟩
      simp only [Deed.run, hselect, houtcome]
      exact ⟨trivial, hs'⟩
  | names =>
    cases h with
    | names hlisted =>
      rw [hlisted.unique (listed_names hs)]
      exact ⟨rfl, hs⟩
  | isEmpty =>
    cases h with
    | isEmpty hempty =>
      have hflag := Bool.eq_iff_iff.2 (hempty.trans (isEmpty_iff_not_live hs).symm)
      exact ⟨by rw [hflag]; rfl, hs⟩

/-- Nor is anything else of deeds that are done one after the other. -/
theorem runAll_of_doesAll {past : List (Change α)} {s : Subscriptions α} (hs : Represents past s)
    (ds : List (Deed α)) {seen : List (Sight α)} {past' : List (Change α)}
    (h : DoesAll past ds seen past') :
    seen = (runAll s ds).2 ∧ Represents past' (runAll s ds).1 := by
  cases ds with
  | nil =>
    cases h
    exact ⟨rfl, hs⟩
  | cons d rest =>
    cases h with
    | cons hfirst hrest =>
      obtain ⟨rfl, hs'⟩ := run_of_does hs d hfirst
      obtain ⟨rfl, hs''⟩ := runAll_of_doesAll hs' rest hrest
      exact ⟨rfl, hs''⟩

end

/-- **A registry does what its history tells.**  Whatever is done to an empty registry, by
its users or by the handlers that it calls, what is seen can be told by the changes made
before alone: an event goes to the handler last registered under its name and not removed
since, or else to the one last registered for all events, or else to none; and nothing else
can be told by them. -/
theorem registry_refines_history (ds : List (Deed α)) :
    let run := runAll (empty : Subscriptions α) ds
    (∃ past, DoesAll [] ds run.2 past) ∧
      ∀ seen past, DoesAll [] ds seen past → seen = run.2 ∧ Represents past run.1 := by
  intro run
  obtain ⟨past, hdoes, -⟩ := doesAll_run represents_empty ds
  exact ⟨⟨past, hdoes⟩, fun seen past h => runAll_of_doesAll represents_empty ds h⟩

/-- A handler that replaces itself and breaks off was called all the same. -/
example : (runAll (empty : Subscriptions Nat) [.register " Door" 1,
    .dispatch ⟨"door", "1"⟩ [.register "DOOR\t" 2, .names] .panics,
    .dispatch ⟨"dOOr", "2"⟩ [.unregister "door"] .returns, .isEmpty]).2 =
    [.answered .done,
      .called 1 ⟨"door", "1"⟩, .answered .done, .answered (.names ["door"]),
      .answered (.outcome .handlerFailed),
      .called 2 ⟨"dOOr", "2"⟩, .answered (.flag true), .answered (.outcome .handled),
      .answered (.flag true)] := by decide

end Appliance.Subscriptions
