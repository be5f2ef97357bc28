import Appliance.Listener.Standing
import Appliance.Proofs.Listener.Turns

/-!
# Listeners that keep watch

A listener records its loop for as long as somebody has not taken it off, whatever the loop
does meanwhile. This file shows that the record can be relied on: unless the session breaks
off, a recorded loop goes on until the listener has failed for good or a call ends it, and
while no call is served it does what the state says.

* `Vigilant`     — the invariant: a loop ends for one of two reasons, and shall end only
  while a call waits for it.
* `KeepsWatch`   — what a user may rely on while no call is served.
* `vigilant_step` — **every step keeps the invariant, unless the session breaks off.**
* `turns_log`    — the calls that have their turn are those of the log.
* **`recorded_loop_keeps_watch`** — at every moment at which no call is served, and at the
  turn of every call.
* `break_ends_loop` — a session that breaks off leaves a loop that has ended, on record.
-/

namespace Appliance

namespace Listener

/-! ## The invariant -/

/-- `Vigilant l`: the loop of `l` has ended only for good or because it shall end, it shall
end only while a call waits for that, and without a loop there is nothing to be kept open. -/
structure Vigilant (l : Listener) : Prop where
  ended : ∀ s, l.supervisor = some s → s.loop = .ended →
    l.state = .permanentlyFailed ∨ s.cancelled = true
  /-- A channel is closed for no reason of its own only if the loop shall end. -/
  closing : ∀ s channel, l.supervisor = some s → s.loop = .closing channel none →
    s.cancelled = true
  cancelled : ∀ s, l.supervisor = some s → s.cancelled = true →
    ∃ ticket disposing, l.serving = .stopping ticket disposing
  alone : l.supervisor = none → l.state = .disconnected ∨ l.state = .permanentlyFailed ∨
    ∃ ticket stage, l.serving = .starting ticket stage

/-- A listener without a loop that shows neither an attempt nor a channel. -/
theorem Vigilant.of_idle {l : Listener} (hs : l.supervisor = none)
    (hst : l.state = .disconnected ∨ l.state = .permanentlyFailed) : Vigilant l where
  ended s h := by simp [hs] at h
  closing s channel h := by simp [hs] at h
  cancelled s h := by simp [hs] at h
  alone _ := hst.elim .inl fun h => .inr (.inl h)

/-- A listener whose loop has begun just now. -/
theorem Vigilant.of_begun {l : Listener} {s : Supervisor} (hs : l.supervisor = some s)
    (hc : s.cancelled = false) (he : s.loop ≠ .ended)
    (hclosing : ∀ channel, s.loop ≠ .closing channel none) : Vigilant l where
  ended s' h h' := by
    rw [hs] at h
    cases h
    exact absurd h' he
  closing s' channel h h' := by
    rw [hs] at h
    cases h
    exact absurd h' (hclosing channel)
  cancelled s' h h' := by
    rw [hs] at h
    cases h
    simp [hc] at h'
  alone h := by simp [hs] at h

/-- What no loop and no call changes is kept. -/
theorem Vigilant.of_eq {l l' : Listener} (h : Vigilant l) (hs : l'.supervisor = l.supervisor)
    (hst : l'.state = l.state) (hl : l'.serving = l.serving) : Vigilant l' where
  ended s hs' he := by
    rw [hst]
    exact h.ended s (hs ▸ hs') he
  closing s channel hs' he := h.closing s channel (hs ▸ hs') he
  cancelled s hs' hc := by
    rw [hl]
    exact h.cancelled s (hs ▸ hs') hc
  alone hs' := by
    rw [hst, hl]
    exact h.alone (hs ▸ hs')

theorem vigilant_fresh (backoff : Backoff) (ownsSession : Bool) :
    Vigilant (fresh backoff ownsSession) :=
  .of_idle rfl (.inl rfl)

/-! ## The loop -/

section Loop

variable {l : Listener} {s : Supervisor} (hv : Vigilant l) (hs : l.supervisor = some s)
include hv hs

/-- The loop moves on, to where it has a reason to be. -/
theorem Vigilant.moved {l' : Listener} {s' : Supervisor} (hs' : l'.supervisor = some s')
    (hl : l'.serving = l.serving) (hc : s'.cancelled = s.cancelled)
    (he : s'.loop = .ended → l'.state = .permanentlyFailed ∨ s.cancelled = true)
    (hclosing : ∀ channel, s'.loop = .closing channel none → s.cancelled = true) :
    Vigilant l' where
  ended s'' h h' := by
    rw [hs'] at h
    cases h
    rw [hc]
    exact he h'
  closing s'' channel h h' := by
    rw [hs'] at h
    cases h
    rw [hc]
    exact hclosing channel h'
  cancelled s'' h h' := by
    rw [hs'] at h
    cases h
    rw [hl]
    exact hv.cancelled s hs (hc ▸ h')
  alone h := by simp [hs'] at h

/-- The loop moves on to a place from which it goes on by itself. -/
theorem Vigilant.goes {l' : Listener} {s' : Supervisor} (hs' : l'.supervisor = some s')
    (hl : l'.serving = l.serving) (hc : s'.cancelled = s.cancelled) (he : s'.loop ≠ .ended)
    (hclosing : ∀ channel, s'.loop ≠ .closing channel none) : Vigilant l' :=
  hv.moved hs hs' hl hc (fun h => absurd h he) (fun channel h => absurd h (hclosing channel))

/-- The loop ends because it shall end. -/
theorem Vigilant.left (hc : s.cancelled = true) : Vigilant (l.withLoop s .ended) :=
  hv.moved hs rfl rfl rfl (fun _ => .inr hc) (fun _ h => by cases h)

/-- The loop ends for good. -/
theorem Vigilant.failed : Vigilant ((l.withLoop s .ended).goto .permanentlyFailed).1 :=
  hv.moved hs rfl rfl rfl (fun _ => .inl rfl) (fun _ h => by cases h)

theorem vigilant_attemptAdvance (attempt : Nat) (a : Advance) :
    Vigilant (l.attemptAdvance s attempt a).1 := by
  cases a with
  | asks a => exact hv.goes hs rfl rfl rfl (by simp) (by simp)
  | fails f =>
    show Vigilant (l.attemptFailed s attempt f).1
    unfold attemptFailed
    split
    · exact hv.failed hs
    · exact hv.goes hs rfl rfl rfl (by simp) (by simp)

theorem vigilant_channelClosed {channel : Nat} {reason : Option DisconnectReason}
    (hloop : s.loop = .closing channel reason) :
    Vigilant (l.channelClosed s channel reason).1 := by
  unfold channelClosed
  split
  · exact hv.left hs (hv.closing s channel hs hloop)
  · split
    · exact hv.failed hs
    · split
      · rename_i hgraceful
        exact hv.left hs hgraceful.2
      · exact hv.goes hs rfl rfl rfl (by simp) (by simp)

theorem vigilant_notice (hc : s.cancelled = true) : Vigilant (l.notice s).1 := by
  unfold notice
  split
  · exact hv.moved hs rfl rfl rfl (fun h => by cases h) (fun _ _ => hc)
  · exact hv.left hs hc
  · exact hv.left hs hc
  · exact hv.left hs hc
  · exact hv
  · exact hv

/-- Whatever the loop takes, it goes on or has a reason not to, unless the session breaks
off. -/
theorem vigilant_loopHears {g : Glance} {i : Input} {m : Move}
    (hi : i ≠ .refreshed (.error .beyondClock)) (hm : LoopHears g i l s m) : Vigilant m.1 := by
  cases hm with
  | noticed hc _ => exact vigilant_notice hv hs hc
  | fell hloop _ => exact hv.goes hs rfl rfl rfl (by simp) (by simp)
  | closed hloop _ => exact vigilant_channelClosed hv hs hloop
  | elapsed hloop _ => exact hv.goes hs rfl rfl rfl (by simp) (by simp)
  | began hloop _ => exact vigilant_attemptAdvance hv hs _ _
  | turned hloop ht =>
    rcases turn?_cases ht with ⟨-, -, rfl⟩ | ⟨-, f, -, rfl⟩ | ⟨-, hbreak, -⟩ | ⟨-, n, -, rfl⟩ |
      ⟨-, f, -, rfl⟩
    · exact vigilant_attemptAdvance hv hs _ _
    · exact vigilant_attemptAdvance hv hs _ _
    · exact absurd hbreak hi
    · exact hv.goes hs rfl rfl rfl (by simp) (by simp)
    · exact vigilant_attemptAdvance hv hs _ _

end Loop

/-! ## The first attempt -/

/-- The first attempt asks for something, or its failure leaves the listener to a loop or
failed for good. -/
theorem vigilant_firstAdvance {l : Listener} (hs : l.supervisor = none) (ticket : Nat)
    (a : Advance) : Vigilant (l.firstAdvance ticket a).1 := by
  cases a with
  | asks a =>
    exact {
      ended := by simp [firstAdvance, hs]
      closing := by simp [firstAdvance, hs]
      cancelled := by simp [firstAdvance, hs]
      alone := fun _ => .inr (.inr ⟨ticket, a.stage, rfl⟩) }
  | fails f =>
    show Vigilant (l.firstFailed ticket f).1
    unfold firstFailed
    split
    · exact .of_idle hs (.inr rfl)
    · exact .of_begun rfl rfl (by simp) (by simp)

/-- Whatever an input does, the listener keeps watch, unless the session breaks off. -/
theorem vigilant_hears {g : Glance} {i : Input} {l : Listener} {m : Move} (hc : Coherent l)
    (hv : Vigilant l) (hi : i ≠ .refreshed (.error .beyondClock)) (hm : Hears g i l m) :
    Vigilant m.1 := by
  cases hm with
  | nothing _ => exact hv
  | queued _ => exact hv.of_eq rfl rfl rfl
  | firstTurn hl ht =>
    have hs := (hc.starting _ _ hl).1
    rcases turn?_cases ht with ⟨-, -, rfl⟩ | ⟨-, f, -, rfl⟩ | ⟨-, hbreak, -⟩ | ⟨-, n, -, rfl⟩ |
      ⟨-, f, -, rfl⟩
    · exact vigilant_firstAdvance hs _ _
    · exact vigilant_firstAdvance hs _ _
    · exact absurd hbreak hi
    · exact .of_begun rfl rfl (by simp) (by simp)
    · exact vigilant_firstAdvance hs _ _
  | looped _ hs hm => exact vigilant_loopHears hv hs hi hm

/-! ## Calls -/

theorem vigilant_finishStop (l : Listener) (ticket : Nat) (disposing : Bool) :
    Vigilant (l.finishStop ticket disposing).1 := by
  rw [finishStop_fst]
  refine .of_idle rfl ?_
  cases disposing with
  | true => exact .inr rfl
  | false =>
    cases hst : l.state <;> simp [finished, rested, ListenerState.isTerminal, hst]

theorem vigilant_beginStop {l : Listener} (ticket : Nat) (disposing : Bool) :
    Vigilant (l.beginStop ticket disposing).1 := by
  unfold beginStop
  split
  · exact vigilant_finishStop l ticket disposing
  · split
    · exact vigilant_finishStop l ticket disposing
    · rename_i s hs he
      exact {
        ended := by
          rintro _ ⟨⟩ h
          exact absurd h he
        closing := by
          rintro _ _ ⟨⟩ _
          rfl
        cancelled := fun _ _ _ => ⟨ticket, disposing, rfl⟩
        alone := by simp }

theorem vigilant_begins {l : Listener} (hv : Vigilant l) (hl : l.serving = .nothing) {g : Glance}
    {ticket : Nat} {c : Call} {m : Move} (hm : Begins g ticket l c m) : Vigilant m.1 := by
  cases hm with
  | answered result => exact hv.of_eq rfl rfl hl.symm
  | started _ hs => exact vigilant_firstAdvance (l := (l.goto .connecting).1) hs ticket _
  | stopped => exact vigilant_beginStop ticket false
  | disposed => exact vigilant_beginStop ticket true

theorem vigilant_served {g : Glance} {calls : List (Nat × Call)} {l : Listener} {m : Move}
    (hv : Vigilant l) (hm : Served g calls l m) : Vigilant m.1 := by
  cases hm with
  | joined _ _ _ => exact vigilant_finishStop l _ _
  | called hl _ => exact vigilant_begins hv hl (begins_serve l g _ _)
  | dequeued _ => exact hv.of_eq rfl rfl rfl

/-! ## Steps and runs -/

/-- **Every step keeps the invariant, unless the session breaks off.** -/
theorem vigilant_step {l : Listener} (hc : Coherent l) (hv : Vigilant l) (g : Glance) {i : Input}
    (hi : i ≠ .refreshed (.error .beyondClock)) : Vigilant (l.step g i).1 := by
  obtain ⟨effects, hserves, -⟩ := step_parts l g i
  have hcomposes : Composes fun l _ l' => Vigilant l → Vigilant l' :=
    ⟨fun _ h => h, fun h h' hv => h' (h hv)⟩
  have hserved := rel_serves hcomposes (fun _ _ hm hv => vigilant_served hv hm) hserves
  exact hserved (vigilant_hears hc hv hi (hears_hear l g i))

theorem vigilant_run {inputs : List (Glance × Input)}
    (hi : ∀ x ∈ inputs, x.2 ≠ .refreshed (.error .beyondClock)) {l : Listener} (hc : Coherent l)
    (hv : Vigilant l) : Vigilant (l.run inputs).1 := by
  induction inputs generalizing l with
  | nil => exact hv
  | cons x rest ih =>
    obtain ⟨g, i⟩ := x
    have hstep := vigilant_step hc hv g (hi _ List.mem_cons_self)
    exact ih (fun x hx => hi x (List.mem_cons_of_mem _ hx)) (walks_step l g i hc).1 hstep

/-! ## What a user may rely on -/

/-- `KeepsWatch l`: what the loop of `l` does, if it has one on record, is what the state of
`l` says, and without a loop the state promises nothing. -/
structure KeepsWatch (l : Listener) : Prop where
  recorded : ∀ s, l.supervisor = some s → l.state ≠ .permanentlyFailed →
    s.loop ≠ .ended ∧ s.cancelled = false ∧
    (s.loop.holdsChannel = true ↔ l.state = .connected) ∧
    (s.loop.awaitsRetry = true ↔ l.state = .retryScheduled) ∧
    (s.loop.makesAttempt = true ↔ l.state = .connecting)
  unrecorded : l.supervisor = none → l.state = .disconnected ∨ l.state = .permanentlyFailed

/-- While no call is served the invariant is what a user may rely on. -/
theorem Vigilant.keepsWatch {l : Listener} (hv : Vigilant l) (hc : Coherent l)
    (hl : l.serving = .nothing) : KeepsWatch l where
  recorded s hs hst := by
    have hcancelled : s.cancelled = false := by
      rw [Bool.eq_false_iff]
      intro h
      obtain ⟨ticket, disposing, h'⟩ := hv.cancelled s hs h
      rw [hl] at h'
      cases h'
    have hended : s.loop ≠ .ended := by
      intro h
      rcases hv.ended s hs h with h' | h'
      · exact hst h'
      · rw [hcancelled] at h'
        cases h'
    have hplaced := hc.placed s hs
    refine ⟨hended, hcancelled, ?_⟩
    cases hloop : s.loop with
    | ended => exact absurd hloop hended
    | _ =>
      have hst' := hplaced _ (by rw [hloop]; rfl)
      simp [hst', Loop.holdsChannel, Loop.awaitsRetry, Loop.makesAttempt]
  unrecorded hs := by
    rcases hv.alone hs with h | h | ⟨ticket, stage, h⟩
    · exact .inl h
    · exact .inr h
    · rw [hl] at h
      cases h

/-! ## The turns of calls -/

/-- The call whose turn a line tells. -/
def LogLine.turn? : LogLine → Option (Nat × Call)
  | .turn ticket c => some (ticket, c)
  | _ => none

theorem filterMap_turn?_did (effects : List Effect) :
    (effects.map LogLine.did).filterMap LogLine.turn? = [] := by
  simp [List.filterMap_map, LogLine.turn?]

theorem turns_serveLog (g : Glance) (queue : List (Nat × Call)) (l : Listener) :
    (serveLog g queue l).filterMap LogLine.turn? = (serveTurns g queue l).map Prod.snd := by
  induction queue generalizing l with
  | nil => rfl
  | cons call rest ih =>
    obtain ⟨ticket, c⟩ := call
    simp only [serveLog, serveTurns, List.filterMap_cons, List.filterMap_append, LogLine.turn?,
      filterMap_turn?_did, List.singleton_append, List.map_cons]
    congr 1
    split
    · exact ih _
    · rfl

theorem turns_stepLog (l : Listener) (g : Glance) (i : Input) :
    (l.stepLog g i).filterMap LogLine.turn? = (l.stepTurns g i).map Prod.snd := by
  have hheard :
      (if l.isAwaited i then [LogLine.heard i] else []).filterMap LogLine.turn? = [] := by
    split <;> rfl
  simp only [stepLog, stepTurns, List.filterMap_append, hheard, filterMap_turn?_did,
    List.nil_append]
  split
  · exact turns_serveLog g _ _
  · rfl

/-- The calls that have their turn are those of the log, in order. -/
theorem turns_log (inputs : List (Glance × Input)) (l : Listener) :
    (l.log inputs).filterMap LogLine.turn? = (l.turns inputs).map Prod.snd := by
  induction inputs generalizing l with
  | nil => rfl
  | cons x rest ih =>
    obtain ⟨g, i⟩ := x
    simp only [log, turns, List.filterMap_append, List.map_append, turns_stepLog, ih]

/-- Whoever serves a call serves none before, and keeps watch. -/
theorem keepsWatch_serveTurns (g : Glance) {queue : List (Nat × Call)} {l : Listener}
    (hl : l.serving = .nothing) (hc : Coherent l) (hv : Vigilant l) :
    ∀ x ∈ serveTurns g queue l, KeepsWatch x.1 := by
  induction queue generalizing l with
  | nil => simp [serveTurns]
  | cons call rest ih =>
    obtain ⟨ticket, c⟩ := call
    intro x hx
    simp only [serveTurns, List.mem_cons] at hx
    rcases hx with rfl | hx
    · exact hv.keepsWatch hc hl
    · split at hx
      · rename_i hn
        have hserved : Served g [(ticket, c)] l (l.serve g ticket c) :=
          .called hl List.mem_cons_self
        exact ih hn (lands_served hc hserved).1 (vigilant_served hv hserved) x hx
      · cases hx

theorem keepsWatch_stepTurns {l : Listener} (hc : Coherent l) (hv : Vigilant l) (g : Glance)
    {i : Input} (hi : i ≠ .refreshed (.error .beyondClock)) :
    ∀ x ∈ l.stepTurns g i, KeepsWatch x.1 := by
  have hears := hears_hear l g i
  have hc' := (lands_hears hc hears).1
  have hv' := vigilant_hears hc hv hi hears
  have hjoin := serves_joinLoop g [] (l.hear g i).1
  have hcomposes : Composes fun l _ l' => Coherent l ∧ Vigilant l → Coherent l' ∧ Vigilant l' :=
    ⟨fun _ h => h, fun h h' hl => h' (h hl)⟩
  obtain ⟨hc'', hv''⟩ := rel_serves hcomposes
    (fun _ _ hm h => ⟨(lands_served h.1 hm).1, vigilant_served h.2 hm⟩) hjoin ⟨hc', hv'⟩
  intro x hx
  simp only [stepTurns] at hx
  split at hx
  · rename_i hn
    exact keepsWatch_serveTurns g hn hc'' hv'' x hx
  · cases hx

theorem keepsWatch_turns {inputs : List (Glance × Input)}
    (hi : ∀ x ∈ inputs, x.2 ≠ .refreshed (.error .beyondClock)) {l : Listener} (hc : Coherent l)
    (hv : Vigilant l) : ∀ x ∈ l.turns inputs, KeepsWatch x.1 := by
  induction inputs generalizing l with
  | nil => simp [turns]
  | cons y rest ih =>
    obtain ⟨g, i⟩ := y
    have hnow := hi _ List.mem_cons_self
    intro x hx
    rcases List.mem_append.1 hx with hx | hx
    · exact keepsWatch_stepTurns hc hv g hnow x hx
    · exact ih (fun x hx => hi x (List.mem_cons_of_mem _ hx)) (walks_step l g i hc).1
        (vigilant_step hc hv g hnow) x hx

/-- A start that is answered at once, and well, finds a loop on record. -/
theorem recorded_of_started_already {l : Listener} {g : Glance} {ticket : Nat}
    (h : (l.serve g ticket .start).2 = [.reply ticket (.ok ())]) :
    ∃ s, l.supervisor = some s ∧ l.state ≠ .permanentlyFailed := by
  simp only [serve] at h
  split at h
  · simp at h
  · split at h
    · simp at h
    · rename_i hst
      rw [ListenerState.isTerminal_iff] at hst
      split at h
      · rename_i hs
        obtain ⟨s, hs⟩ := Option.isSome_iff_exists.1 hs
        exact ⟨s, hs, hst⟩
      · -- an attempt that begins is told before any reply
        have hattempt : Effect.attempt true g ∈ [Effect.reply ticket (.ok ())] := by
          rw [← h, andThen_snd]
          exact List.mem_append_right _ List.mem_cons_self
        simp at hattempt

/-- **A recorded loop keeps watch.** In every run in which the session does not break off:
whenever no call is served, and at the turn of every call, the loop on record has neither
ended nor been told to unless the listener has failed for good, and it does what the state
says; without a loop on record the listener is disconnected or has failed for good. So a
start that is answered well because a loop is on record finds one that goes on. -/
theorem recorded_loop_keeps_watch (backoff : Backoff) (ownsSession : Bool)
    (inputs : List (Glance × Input))
    (hi : ∀ x ∈ inputs, x.2 ≠ .refreshed (.error .beyondClock)) :
    let l := ((fresh backoff ownsSession).run inputs).1
    (l.serving = .nothing → KeepsWatch l) ∧
    ∀ l' ticket c, (l', ticket, c) ∈ (fresh backoff ownsSession).turns inputs →
      KeepsWatch l' ∧
      ∀ g, c = .start → (l'.serve g ticket c).2 = [.reply ticket (.ok ())] →
        ∃ s, l'.supervisor = some s ∧ s.loop ≠ .ended ∧ s.cancelled = false := by
  have hc := coherent_fresh backoff ownsSession
  have hv := vigilant_fresh backoff ownsSession
  refine ⟨fun hl => (vigilant_run hi hc hv).keepsWatch (coherent_run backoff ownsSession inputs) hl,
    fun l' ticket c hturn => ?_⟩
  have hwatch := keepsWatch_turns hi hc hv _ hturn
  refine ⟨hwatch, ?_⟩
  rintro g rfl hreply
  obtain ⟨s, hs, hst⟩ := recorded_of_started_already hreply
  obtain ⟨hended, hcancelled, -⟩ := hwatch.recorded s hs hst
  exact ⟨s, hs, hended, hcancelled⟩

/-- A channel is opened and ends, and the listener is started again meanwhile. -/
def interrupted : List (Glance × Input) :=
  let g : Glance := ⟨60, some ⟨"t", 60 * Duration.nanosPerSecond⟩⟩
  [(g, .call 0 .start), (g, .opened (.ok 0)), (g, .disconnected 0 .graceful), (g, .closed 0),
    (g, .call 1 .start)]

/-- The listener then waits to try again, and its second start finds the loop that does. -/
theorem interrupted_listener_keeps_watch :
    (∀ x ∈ interrupted, x.2 ≠ .refreshed (.error .beyondClock)) ∧
      ((fresh Backoff.standard true).run interrupted).1.state = .retryScheduled ∧
      KeepsWatch ((fresh Backoff.standard true).run interrupted).1 ∧
      ∃ x ∈ (fresh Backoff.standard true).turns interrupted,
        x.2 = (1, .start) ∧ x.1.supervisor.isSome = true ∧ KeepsWatch x.1 := by
  have hi : ∀ x ∈ interrupted, x.2 ≠ .refreshed (.error .beyondClock) := by simp [interrupted]
  obtain ⟨hquiet, hturns⟩ := recorded_loop_keeps_watch Backoff.standard true interrupted hi
  refine ⟨hi, rfl, hquiet rfl, ?_⟩
  have hsecond : ∃ x ∈ (fresh Backoff.standard true).turns interrupted,
      x.2 = (1, .start) ∧ x.1.supervisor.isSome = true :=
    ⟨_, List.mem_cons_of_mem _ List.mem_cons_self, rfl, rfl⟩
  obtain ⟨x, hx, hcall, hs⟩ := hsecond
  exact ⟨x, hx, hcall, hs, (hturns x.1 x.2.1 x.2.2 hx).1⟩

/-- A session that breaks off ends the loop of a listener that serves no call, and leaves it
on record, while the state still promises an attempt. -/
theorem break_ends_loop {l : Listener} (hl : l.serving = .nothing) (hq : l.queue = [])
    {s : Supervisor} {attempt : Nat} (hs : l.supervisor = some s)
    (hloop : s.loop = .attempting attempt .refreshing) (g : Glance) :
    l.step g (.refreshed (.error .beyondClock)) = still (l.withLoop s .ended) := by
  have hear : l.hear g (.refreshed (.error .beyondClock)) = still (l.withLoop s .ended) := by
    simp [hear, hl, hs, loopInput, hloop, turn?, attemptTurn]
  simp [step, hear, joinLoop, serveNext, serveAll, withLoop, hl, hq, still, Move.andThen]

end Listener

end Appliance
