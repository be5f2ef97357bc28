import Appliance.Proofs.Hub.Attendance

/-!
# Channels without their tasks

A listener of the event hub, as it is without the tasks of its channels, performs all that
comes of an input at once. This file shows that it is the same listener, its tasks being
left alone until they are idle: whatever it does, it also does with its tasks.

* `Reaches`  — one thing after another leads from one listener to another.
* `reaches_drained` — a task that is left alone performs all that it has to.
* `reaches_step` — what happens to the listener at once happens to it with its tasks.
* **`exists_run_of_run`** — every run of the listener is a run with its tasks.
-/

namespace Appliance.HubTasks

open Hub (Channel Line Opening ChannelTask)
open Listener (Glance)

/-- `Reaches w w'`: some things that happen lead from `w` to `w'`. -/
def Reaches (w w' : HubTasks) : Prop := ∃ events, (w.run events).1 = w'

theorem run_append (w : HubTasks) (events events' : List (Glance × Event)) :
    (w.run (events ++ events')).1 = ((w.run events).1.run events').1 := by
  induction events generalizing w with
  | nil => rfl
  | cons x rest ih => exact ih (w.step x.1 x.2).1

theorem Reaches.refl (w : HubTasks) : Reaches w w := ⟨[], rfl⟩

theorem Reaches.trans {w w' w'' : HubTasks} (h : Reaches w w') (h' : Reaches w' w'') :
    Reaches w w'' := by
  obtain ⟨events, rfl⟩ := h
  obtain ⟨events', rfl⟩ := h'
  exact ⟨events ++ events', run_append w events events'⟩

theorem reaches_of_step (w : HubTasks) (g : Glance) (e : Event) : Reaches w (w.step g e).1 :=
  ⟨[(g, e)], rfl⟩

/-- The invariant holds of all that is reached. -/
theorem attended_reaches {w w' : HubTasks} (h : Attended w) (hr : Reaches w w') : Attended w' := by
  obtain ⟨events, rfl⟩ := hr
  induction events generalizing w with
  | nil => exact h
  | cons x rest ih => exact ih (attended_step h x.1 x.2).1

/-! ## Tasks that are left alone -/

/-- A task performs one effect, and its handler returns. -/
theorem reaches_carried {w : HubTasks} {n : Nat} {effect : Channel.Effect}
    {rest : List Channel.Effect} {given : Option DisconnectReason}
    (ht : w.tasks[n]? = some ⟨effect :: rest, none, given⟩) (g : Glance) :
    Reaches w { w with
      hub := w.hub.deliver effect
      tasks := w.tasks.set n ⟨rest, none, effect.given?.or given⟩ } := by
  have hcarried : (w.step g (.carried n)).1 = { w with
      hub := w.hub.deliver effect
      tasks := w.tasks.set n ⟨rest, w.hub.called? effect, effect.given?.or given⟩ } := by
    simp [step, ht, carry]
  have hcarry := reaches_of_step w g (.carried n)
  rw [hcarried] at hcarry
  cases hcalled : w.hub.called? effect with
  | none => rwa [hcalled] at hcarry
  | some e =>
    rw [hcalled] at hcarry
    refine hcarry.trans ?_
    have hreturn := reaches_of_step { w with
      hub := w.hub.deliver effect
      tasks := w.tasks.set n ⟨rest, some e, effect.given?.or given⟩ } g (.returned n)
    simpa [step, finish, getElem?_set_task ht] using hreturn

/-- A task that is left alone performs all that it has to. -/
theorem reaches_drained (effects : List Channel.Effect) {w : HubTasks} {n : Nat}
    {given : Option DisconnectReason} (ht : w.tasks[n]? = some ⟨effects, none, given⟩) (g : Glance) :
    ∃ given', Reaches w { w with
      hub := effects.foldl HubListener.deliver w.hub
      tasks := w.tasks.set n ⟨[], none, given'⟩ } := by
  induction effects generalizing w given with
  | nil =>
    refine ⟨given, ?_⟩
    obtain ⟨hn, ht⟩ := List.getElem?_eq_some_iff.1 ht
    rw [List.foldl_nil, ← ht, List.set_getElem_self]
    exact .refl w
  | cons effect rest ih =>
    have hcarried := reaches_carried ht g
    have ht' : (w.tasks.set n ⟨rest, none, effect.given?.or given⟩)[n]? =
        some ⟨rest, none, effect.given?.or given⟩ := by
      rw [getElem?_set_task ht, if_pos rfl]
    obtain ⟨given', hrest⟩ := ih (w := { w with
      hub := w.hub.deliver effect
      tasks := w.tasks.set n ⟨rest, none, effect.given?.or given⟩ }) ht'
    refine ⟨given', hcarried.trans ?_⟩
    simpa [List.set_set] using hrest

/-! ## Steps and runs -/

/-- `Resting w`: every task is idle, and no channel arrives. -/
structure Resting (w : HubTasks) : Prop where
  attended : Attended w
  arriving : w.arriving = none
  idle : ∀ (n : Nat) t, w.tasks[n]? = some t → t.isIdle = true

/-- A channel of a listener at rest has an idle task, which has given what there is to
give. -/
theorem Resting.task {w : HubTasks} (h : Resting w) {n : Nat} (hn : n < w.hub.lines.length) :
    ∃ t, w.tasks[n]? = some t ∧ t.isIdle = true ∧ t.given = w.hub.reason? n := by
  rw [← h.attended.numbered] at hn
  have ht := List.getElem?_eq_getElem hn
  have hidle := h.idle n _ ht
  exact ⟨_, ht, hidle, (h.attended.fits n _ ht).of_idle hidle⟩

/-- What comes of a channel that goes on is performed by its task. -/
theorem reaches_turn {w : HubTasks} (h : Resting w) (g : Glance) {e : HubListener.Event} {n : Nat}
    {l : Line} {effects : List Channel.Effect}
    (hturn : w.hub.turning? e = some (n, l, effects)) :
    ∃ w', Reaches w w' ∧ w'.hub = w.hub.step g e ∧ w'.arriving = none ∧
      ∀ (k : Nat) t, w'.tasks[k]? = some t → t.isIdle = true := by
  obtain ⟨hmove, -, l₀, hl₀, -⟩ := HubListener.turning?_spec h.attended.orderly hturn
  obtain ⟨t, ht, hidle, -⟩ := h.task (List.getElem?_eq_some_iff.1 hl₀).1
  obtain ⟨hdue, hcalling⟩ := ChannelTask.isIdle_iff.1 hidle
  have hstep : w.hub.step g e = w.hub.move n l effects ∧ w.step g (.happened e) = w.happen g e := by
    cases HubListener.turns_of_turning? hturn with
    | began => exact ⟨hmove, by simp [step, admits, ht, hidle]⟩
    | took => exact ⟨hmove, by simp [step, admits, ht, hidle]⟩
  have hhappened := reaches_of_step w g (.happened e)
  have ht' : (w.tasks.modify n fun t => { t with due := effects })[n]? =
      some ⟨effects, none, t.given⟩ := by
    simp [ht, hcalling]
  rw [hstep.2] at hhappened
  simp only [happen, hturn] at hhappened
  obtain ⟨given, hdrained⟩ := reaches_drained effects (w := { w with
    hub := { w.hub with lines := w.hub.lines.set n l }
    tasks := w.tasks.modify n fun t => { t with due := effects } }) ht' g
  refine ⟨_, hhappened.trans hdrained, ?_, h.arriving, fun k u hu => ?_⟩
  · rw [hstep.1]
    rfl
  · simp only [getElem?_set_task (w := { w with
      tasks := w.tasks.modify n fun t => { t with due := effects } }) ht'] at hu
    split at hu
    · cases hu
      rfl
    · next hk =>
      rw [List.getElem?_modify_ne _ _ hk] at hu
      exact h.idle k u hu

/-- Where no channel goes on, all happens at once. -/
theorem happen_eq {w : HubTasks} (g : Glance) {e : HubListener.Event}
    (hturn : w.hub.turning? e = none) :
    (w.happen g e).1 = { w with hub := w.hub.step g e } := by
  cases hinput : w.hub.input? e with
  | some input => simp only [happen, hturn, hinput, HubListener.step, tell]
  | none => simp only [happen, hturn, hinput, HubListener.step]

/-- What is not admitted is nothing to the listener. -/
theorem step_of_not_admitted {w : HubTasks} (h : Resting w) (g : Glance) {e : HubListener.Event}
    (hturn : w.hub.turning? e = none) (hregisters : ∀ op, e = .subscribe op → op.registers = true)
    (hadmits : w.admits e = false) : w.hub.step g e = w.hub := by
  have hreasonless : ∀ n, (∀ t, w.tasks[n]? = some t → t.given = none) →
      w.hub.reason? n = none := by
    intro n hn
    by_cases hlt : n < w.hub.lines.length
    · obtain ⟨t, ht, -, hgiven⟩ := h.task hlt
      rw [← hgiven, hn t ht]
    · simp [HubListener.reason?, List.getElem?_eq_none (Nat.le_of_not_lt hlt)]
  cases e with
  | began n now => exact HubListener.transport_of_turning?_eq_none hturn (.inl ⟨n, now, rfl⟩)
  | took n now input =>
    exact HubListener.transport_of_turning?_eq_none hturn (.inr ⟨n, now, input, rfl⟩)
  | ended n =>
    have hnone := hreasonless n fun t ht => by simpa [admits, h.arriving, ht] using hadmits
    simp [HubListener.step, HubListener.input?, hnone, HubListener.transport]
  | closed n =>
    have hnone := hreasonless n fun t ht => by
      simpa [admits, h.arriving, ht, ChannelTask.isDone, h.idle n t ht] using hadmits
    simp [HubListener.step, HubListener.input?, hnone, HubListener.transport]
  | subscribe op =>
    have hop := hregisters op rfl
    simp [admits, hop] at hadmits
  | _ => simp [admits, h.arriving] at hadmits

/-- What opens arrives at once. -/
theorem reaches_opened {w : HubTasks} (h : Resting w) (g : Glance) :
    ∃ w', Reaches w w' ∧ w'.hub = w.hub.step g .opened ∧ w'.arriving = none ∧
      ∀ (k : Nat) t, w'.tasks[k]? = some t → t.isIdle = true := by
  have harrive := reaches_of_step w g (.happened .opened)
  cases ho : w.hub.hasOpened with
  | false =>
    have hstep : (w.step g (.happened .opened)).1 = { w with hub := w.hub.step g .opened } := by
      have hhappen : (w.happen g .opened).1 = { w with hub := w.hub.step g .opened } :=
        happen_eq g rfl
      simpa [step, arrive, h.arriving, ho] using hhappen
    rw [hstep] at harrive
    exact ⟨_, harrive, rfl, h.arriving, h.idle⟩
  | true =>
    obtain ⟨pending, hopening⟩ := HubListener.hasOpened_iff.1 ho
    have hspawn : (w.step g .spawned).1 = w.spawn := by simp [step, h.arriving, ho]
    have hspawned := reaches_of_step w g .spawned
    have harrived := reaches_of_step w.spawn g (.happened .opened)
    rw [hspawn] at hspawned
    refine ⟨_, hspawned.trans harrived, ?_, rfl, fun k t ht => ?_⟩
    · simp [step, arrive, spawn, tell, HubListener.step, HubListener.input?, hopening]
    · rcases task_of_spawn ht with ht | ⟨-, rfl⟩
      · exact h.idle k t ht
      · rfl

/-- **What happens to the listener at once happens to it with its tasks.** -/
theorem reaches_step {w : HubTasks} (h : Resting w) (g : Glance) {e : HubListener.Event}
    (hregisters : ∀ op, e = .subscribe op → op.registers = true) :
    ∃ w', Reaches w w' ∧ w'.hub = w.hub.step g e ∧ Resting w' := by
  have hreaches : ∃ w', Reaches w w' ∧ w'.hub = w.hub.step g e ∧ w'.arriving = none ∧
      ∀ (k : Nat) t, w'.tasks[k]? = some t → t.isIdle = true := by
    cases hturn : w.hub.turning? e with
    | some turned => exact reaches_turn h g hturn
    | none =>
      by_cases hopened : e = .opened
      · subst hopened
        exact reaches_opened h g
      · cases hadmits : w.admits e with
        | false =>
          exact ⟨w, .refl w, (step_of_not_admitted h g hturn hregisters hadmits).symm, h.arriving,
            h.idle⟩
        | true =>
          have hstep : w.step g (.happened e) = w.happen g e := by
            cases e <;> first | exact absurd rfl hopened | simp [step, hadmits]
          have hhappened := reaches_of_step w g (.happened e)
          rw [hstep, happen_eq g hturn] at hhappened
          exact ⟨_, hhappened, rfl, h.arriving, h.idle⟩
  obtain ⟨w', hr, hhub, harriving, hidle⟩ := hreaches
  exact ⟨w', hr, hhub, attended_reaches h.attended hr, harriving, hidle⟩

/-- **Every run of the listener is a run with its tasks.**  Its users register handlers and
do nothing else to these. -/
theorem exists_run_of_run (options : Listener.Options) (ownsSession : Bool) (callback : Callback)
    (subscriptions : Subscriptions Handler) (events : List (Glance × HubListener.Event))
    (hregisters : ∀ x ∈ events, ∀ op, x.2 = .subscribe op → op.registers = true) :
    ∃ events', ((fresh options ownsSession callback subscriptions).run events').1.hub =
      (HubListener.fresh options ownsSession callback subscriptions).run events := by
  have hruns : ∀ (events : List (Glance × HubListener.Event)) (w : HubTasks), Resting w →
      (∀ x ∈ events, ∀ op, x.2 = .subscribe op → op.registers = true) →
      ∃ w', Reaches w w' ∧ w'.hub = w.hub.run events := by
    intro events
    induction events with
    | nil => exact fun w _ _ => ⟨w, .refl w, rfl⟩
    | cons x rest ih =>
      intro w hw hall
      obtain ⟨g, e⟩ := x
      obtain ⟨w', hr, hhub, hw'⟩ := reaches_step hw g (hall _ List.mem_cons_self)
      obtain ⟨w'', hr', hhub'⟩ := ih w' hw' fun x hx => hall x (List.mem_cons_of_mem _ hx)
      rw [hhub] at hhub'
      exact ⟨w'', hr.trans hr', hhub'⟩
  have hresting : Resting (fresh options ownsSession callback subscriptions) :=
    ⟨attended_fresh options ownsSession callback subscriptions, rfl, by simp [fresh]⟩
  obtain ⟨w', ⟨events', rfl⟩, hhub⟩ := hruns events _ hresting hregisters
  exact ⟨events', hhub⟩

end Appliance.HubTasks
