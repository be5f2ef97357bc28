import Appliance.Subscriptions.Deed

/-!
# Handlers with scripts

`Subscriptions.perform?` runs handlers that have a script, and do the same at every call. This
file shows that whatever it does are deeds, in which every event comes with the script of the
handler that was called for it. Only the diagnostic text, which changes nothing and calls
nobody, is no deed.

* `Deed.operation`, `Sight.labelled`, `Trace.sight?` — what deeds and scripts have in common.
* `Enacts` — deeds that do what operations do.
* `enacts_perform?`, `enacts_performAll?` — one operation, and one after another.
* **`exists_enacts`** — whatever handlers with scripts do, deeds do.
-/

namespace Appliance

/-- Whether an operation asks for the diagnostic text. -/
def Operation.isDebug : Operation → Bool
  | .debug => true
  | _ => false

namespace Subscriptions

/-- The operation of a deed. -/
def Deed.operation : Deed Handler → Operation
  | .register name h => .register name h
  | .registerAll h => .registerAll h
  | .unregister name => .unregister name
  | .dispatch event _ _ => .dispatch event
  | .names => .names
  | .isEmpty => .isEmpty

/-- What is seen, but of a handler only its label. -/
def Sight.labelled : Sight Handler → Sight String
  | .called h event => .called h.label event
  | .answered answer => .answered answer

end Subscriptions

/-- What a trace shows, unless it is one of the diagnostic text. -/
def Trace.sight? : Trace → Option (Subscriptions.Sight String)
  | .call label event => some (.called label event)
  | .nested op answer => if op.isDebug then none else some (.answered answer)

namespace Subscriptions

/-- `Enacts s ops s' traces ds`: the deeds are the operations, leave `s'`, and show what the
traces show. -/
structure Enacts (s : Subscriptions Handler) (ops : List Operation) (s' : Subscriptions Handler)
    (traces : List Trace) (ds : List (Deed Handler)) : Prop where
  operations : ds.map Deed.operation = ops.filter fun op => !op.isDebug
  leaves : (runAll s ds).1 = s'
  seen : (runAll s ds).2.map Sight.labelled = traces.filterMap Trace.sight?

/-- Deeds can be done in two goes. -/
theorem runAll_append {α : Type} (s : Subscriptions α) (ds ds' : List (Deed α)) :
    runAll s (ds ++ ds') =
      ((runAll (runAll s ds).1 ds').1, (runAll s ds).2 ++ (runAll (runAll s ds).1 ds').2) := by
  induction ds generalizing s with
  | nil => rfl
  | cons d rest ih => simp only [List.cons_append, runAll, ih, List.append_assoc]

/-- One deed alone leaves what it leaves among others. -/
theorem runAll_singleton {α : Type} (s : Subscriptions α) (d : Deed α) :
    runAll s [d] = d.run s := by
  simp only [runAll, List.append_nil]

theorem Enacts.nil (s : Subscriptions Handler) : Enacts s [] s [] [] := ⟨rfl, rfl, rfl⟩

theorem Enacts.append {s s' s'' : Subscriptions Handler} {ops ops' : List Operation}
    {traces traces' : List Trace} {ds ds' : List (Deed Handler)} (h : Enacts s ops s' traces ds)
    (h' : Enacts s' ops' s'' traces' ds') :
    Enacts s (ops ++ ops') s'' (traces ++ traces') (ds ++ ds') where
  operations := by rw [List.map_append, List.filter_append, h.operations, h'.operations]
  leaves := by rw [runAll_append, h.leaves, h'.leaves]
  seen := by
    rw [runAll_append, h.leaves, List.map_append, List.filterMap_append, h.seen, h'.seen]

/-- Operations one after another are deeds one after another, if single operations are
deeds. -/
theorem enacts_performAll? {depth : Nat}
    (hop : ∀ s op p, perform? depth s op = some p →
      ∃ ds, Enacts s [op] p.subscriptions (p.traces ++ [.nested op p.answer]) ds)
    {s s' : Subscriptions Handler} {ops : List Operation} {traces : List Trace}
    (h : performAll? depth s ops = some (s', traces)) : ∃ ds, Enacts s ops s' traces ds := by
  induction ops generalizing s traces with
  | nil =>
    simp only [performAll?, Option.some.injEq, Prod.mk.injEq] at h
    obtain ⟨rfl, rfl⟩ := h
    exact ⟨[], .nil s⟩
  | cons op rest ih =>
    simp only [performAll?] at h
    split at h
    · cases h
    · next p hp =>
      obtain ⟨⟨s'', traces'⟩, hrest, heq⟩ := Option.map_eq_some_iff.1 h
      obtain ⟨rfl, rfl⟩ := Prod.mk.inj heq
      obtain ⟨ds, hds⟩ := hop s op p hp
      obtain ⟨ds', hds'⟩ := ih hrest
      have hall := hds.append hds'
      rw [List.append_assoc] at hall
      exact ⟨ds ++ ds', hall⟩

/-- A single operation is a deed, if the scripts of handlers are deeds. -/
theorem enacts_perform? {depth : Nat}
    (hscript : ∀ k, depth = k + 1 → ∀ s ops s' traces, performAll? k s ops = some (s', traces) →
      ∃ ds, Enacts s ops s' traces ds)
    {s : Subscriptions Handler} {op : Operation} {p : Performed}
    (h : perform? depth s op = some p) :
    ∃ ds, Enacts s [op] p.subscriptions (p.traces ++ [.nested op p.answer]) ds := by
  cases op with
  | register name g =>
    simp only [perform?, Option.some.injEq] at h
    subst h
    exact ⟨[.register name g], rfl, rfl, rfl⟩
  | registerAll g =>
    simp only [perform?, Option.some.injEq] at h
    subst h
    exact ⟨[.registerAll g], rfl, rfl, rfl⟩
  | unregister name =>
    simp only [perform?, Option.some.injEq] at h
    subst h
    exact ⟨[.unregister name], rfl, rfl, rfl⟩
  | names =>
    simp only [perform?, Option.some.injEq] at h
    subst h
    exact ⟨[.names], rfl, rfl, rfl⟩
  | isEmpty =>
    simp only [perform?, Option.some.injEq] at h
    subst h
    exact ⟨[.isEmpty], rfl, rfl, rfl⟩
  | debug =>
    simp only [perform?, Option.some.injEq] at h
    subst h
    exact ⟨[], rfl, rfl, rfl⟩
  | dispatch event =>
    cases hselect : s.select event.name with
    | none =>
      simp only [perform?, hselect, Option.some.injEq] at h
      subst h
      refine ⟨[.dispatch event [] .returns], rfl, ?_, ?_⟩
      · simp [runAll_singleton, Deed.run, hselect]
      · simp [runAll_singleton, Deed.run, hselect, Sight.labelled, Trace.sight?, Operation.isDebug]
    | some g =>
      cases depth with
      | zero => simp [perform?, hselect] at h
      | succ k =>
        simp only [perform?, hselect] at h
        obtain ⟨⟨s', traces⟩, hall, rfl⟩ := Option.map_eq_some_iff.1 h
        obtain ⟨ds, hds⟩ := hscript k rfl s g.script s' traces hall
        refine ⟨[.dispatch event ds g.ending], rfl, ?_, ?_⟩
        · simp [runAll_singleton, Deed.run, hselect, hds.leaves]
        · simp [runAll_singleton, Deed.run, hselect, Sight.labelled, Trace.sight?,
            Operation.isDebug, hds.seen]

/-- **Whatever handlers with scripts do, deeds do.** -/
theorem exists_enacts (depth : Nat) {s s' : Subscriptions Handler} {ops : List Operation}
    {traces : List Trace} (h : performAll? depth s ops = some (s', traces)) :
    ∃ ds, Enacts s ops s' traces ds := by
  induction depth generalizing s s' ops traces with
  | zero =>
    exact enacts_performAll? (fun s op p hp => enacts_perform? (fun k hk => by cases hk) hp) h
  | succ k ih =>
    refine enacts_performAll? (fun s op p hp => enacts_perform? (fun k' hk => ?_) hp) h
    obtain rfl := Nat.succ.inj hk
    exact fun _ _ _ _ h' => ih h'

end Subscriptions

end Appliance
