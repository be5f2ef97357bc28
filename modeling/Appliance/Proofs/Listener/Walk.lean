import Appliance.Proofs.Listener.Moves
import Mathlib.Data.List.Chain

/-!
# The states that a listener shows

The states of a listener form a graph, and every run walks along it.

* `ListenerState.successors` — the edges of the graph.
* `Walk` — a walk with the states that it enters.
* `Coherent` — the invariant: where the loop and the call being served stand fixes the
  state that is shown.
* `walks_step` — **every step keeps the invariant and walks along the graph.**
* `coherent_run` — every listener that a run reaches is coherent.
-/

namespace Appliance

/-! ## The graph -/

namespace ListenerState

/-- The states that may be shown next. -/
def successors : ListenerState → List ListenerState
  | .disconnected => [.connecting, .permanentlyFailed]
  | .connecting => [.connected, .retryScheduled, .permanentlyFailed, .disconnected]
  | .connected => [.retryScheduled, .permanentlyFailed, .disconnected]
  | .retryScheduled => [.connecting, .disconnected]
  | .permanentlyFailed => []

/-- Every state but the last one leads back to `disconnected`, where it is not that
state itself. -/
theorem disconnected_mem_successors {s : ListenerState} (h : s ≠ .permanentlyFailed) :
    s = .disconnected ∨ .disconnected ∈ s.successors := by
  cases s <;> simp_all [successors]

/-- No state follows itself. -/
theorem not_mem_successors_self (s : ListenerState) : s ∉ s.successors := by
  cases s <;> simp [successors]

end ListenerState

/-- `Walk a states b`: entering `states` one after another leads from `a` to `b`. -/
inductive Walk : ListenerState → List ListenerState → ListenerState → Prop
  | stay (a : ListenerState) : Walk a [] a
  | enter {a b c : ListenerState} {states : List ListenerState} (h : b ∈ a.successors)
      (rest : Walk b states c) : Walk a (b :: states) c

namespace Walk

theorem append {a b c : ListenerState} {states states' : List ListenerState}
    (h : Walk a states b) (h' : Walk b states' c) : Walk a (states ++ states') c := by
  induction h with
  | stay a => exact h'
  | enter h _ ih => exact .enter h (ih h')

/-- Every state that is entered follows the one before. -/
theorem isChain {a b : ListenerState} {states : List ListenerState} (h : Walk a states b) :
    List.IsChain (fun x y => y ∈ x.successors) (a :: states) := by
  induction h with
  | stay a => exact List.isChain_singleton a
  | enter h _ ih => exact List.IsChain.cons_cons h ih

/-- A walk ends at the state that it entered last. -/
theorem getLast_eq {a b : ListenerState} {states : List ListenerState} (h : Walk a states b) :
    (a :: states).getLast (List.cons_ne_nil a states) = b := by
  induction h with
  | stay a => rfl
  | enter _ _ ih => rwa [List.getLast_cons (List.cons_ne_nil _ _)]

/-- Nothing is entered after the last state. -/
theorem eq_nil_of_permanentlyFailed {states : List ListenerState} {b : ListenerState}
    (h : Walk .permanentlyFailed states b) : states = [] := by
  cases h with
  | stay => rfl
  | enter h _ => simp [ListenerState.successors] at h

/-- A walk that was cut goes on from the state where it was cut. -/
theorem of_append {states' : List ListenerState} {b x : ListenerState} :
    ∀ {states : List ListenerState} {a : ListenerState}, Walk a (states ++ x :: states') b →
      Walk x states' b := by
  intro states
  induction states with
  | nil =>
    intro a h
    cases h with
    | enter _ rest => exact rest
  | cons y ys ih =>
    intro a h
    cases h with
    | enter _ rest => exact ih rest

end Walk

namespace Listener

/-! ## Where a listener stands -/

/-- The state that is shown while the loop stands at a place, if there is only one. -/
def Loop.state? : Loop → Option ListenerState
  | .watching _ | .closing _ _ => some .connected
  | .waiting _ => some .retryScheduled
  | .ready _ | .attempting _ _ => some .connecting
  | .ended => none

/-- `Coherent l`: the loop and the call being served stand where the state of `l` says. -/
structure Coherent (l : Listener) : Prop where
  /-- The loop stands where the state says. -/
  placed : ∀ s, l.supervisor = some s → ∀ state ∈ s.loop.state?, l.state = state
  /-- The first attempt is made without a loop. -/
  starting : ∀ ticket stage, l.serving = .starting ticket stage →
    l.supervisor = none ∧ l.state = .connecting
  /-- Without a loop there is no channel and no retry. -/
  idle : l.supervisor = none → l.state ≠ .connected ∧ l.state ≠ .retryScheduled

/-- The states among some effects. -/
def shown (effects : List Effect) : List ListenerState :=
  effects.filterMap fun
    | .show s => some s
    | _ => none

@[simp] theorem shown_nil : shown [] = [] := rfl

@[simp] theorem shown_append (effects effects' : List Effect) :
    shown (effects ++ effects') = shown effects ++ shown effects' := List.filterMap_append

@[simp] theorem shown_cons_show (s : ListenerState) (effects : List Effect) :
    shown (.show s :: effects) = s :: shown effects := rfl

theorem shown_goto (l : Listener) (next : ListenerState) :
    shown (l.goto next).2 = if l.state = next then [] else [next] := by
  rw [goto_snd]
  split <;> rfl

@[simp] theorem shown_ask (a : Ask) : shown [a.effect] = [] := by
  cases a <;> rfl

/-- `Lands a m`: the move `m` ends in a coherent listener, and shows a walk from `a` to
its state. -/
def Lands (a : ListenerState) (m : Move) : Prop := Coherent m.1 ∧ Walk a (shown m.2) m.1.state

/-- Going to a state is a walk if that state follows, or is shown already. -/
theorem walk_goto {l : Listener} {next : ListenerState}
    (h : l.state = next ∨ next ∈ l.state.successors) :
    Walk l.state (shown (l.goto next).2) next := by
  rw [shown_goto]
  split
  · rename_i he
    rw [he]
    exact .stay next
  · rename_i hne
    exact .enter (h.resolve_left hne) (.stay next)

/-- Effects that show no state may stand before or after a move. -/
theorem Lands.also {a : ListenerState} {m : Move} {effects : List Effect} (h : Lands a m)
    (he : shown effects = []) : Lands a (m.also effects) := by
  refine ⟨h.1, ?_⟩
  rw [also_snd, shown_append, he, List.append_nil]
  exact h.2

theorem Lands.led {a : ListenerState} {m : Move} {effect : Effect} (h : Lands a m)
    (he : shown [effect] = []) : Lands a (m.led effect) := by
  refine ⟨h.1, ?_⟩
  have hs : shown (effect :: m.2) = shown [effect] ++ shown m.2 := shown_append [effect] m.2
  rw [led_snd, hs, he]
  exact h.2

/-- A move that shows no state lands where it began. -/
theorem Lands.of_quiet {l : Listener} {m : Move} (hc : Coherent m.1) (he : shown m.2 = [])
    (hs : m.1.state = l.state) : Lands l.state m := by
  refine ⟨hc, ?_⟩
  rw [he, hs]
  exact .stay _

theorem Lands.andThen {a : ListenerState} {m : Move} {f : Listener → Move} (h : Lands a m)
    (h' : Lands m.1.state (f m.1)) : Lands a (m.andThen f) := by
  refine ⟨h'.1, ?_⟩
  rw [andThen_snd, shown_append]
  exact h.2.append h'.2

theorem lands_goto {l : Listener} {next : ListenerState} (hc : Coherent (l.goto next).1)
    (h : l.state = next ∨ next ∈ l.state.successors) : Lands l.state (l.goto next) :=
  ⟨hc, walk_goto h⟩

/-! ## Coherence -/

/-- A loop that stands where the state says makes a listener coherent. -/
theorem Coherent.of_supervisor {l : Listener} {s : Supervisor} (hs : l.supervisor = some s)
    (hp : ∀ state ∈ s.loop.state?, l.state = state) (hl : Unstarted l) : Coherent l where
  placed s' hs' := by
    rw [hs] at hs'
    cases hs'
    exact hp
  starting ticket stage h := absurd h (hl ticket stage)
  idle hn := by simp [hs] at hn

/-- A listener without a loop is coherent if it shows no channel and no retry. -/
theorem Coherent.of_idle {l : Listener} (hs : l.supervisor = none) (hl : Unstarted l)
    (hc : l.state ≠ .connected) (hr : l.state ≠ .retryScheduled) : Coherent l where
  placed s' hs' := by simp [hs] at hs'
  starting ticket stage h := absurd h (hl ticket stage)
  idle _ := ⟨hc, hr⟩

/-- A move that is followed by the answer of the call being served. -/
theorem Lands.answered {a : ListenerState} {m : Move} (hc : Coherent { m.1 with serving := .nothing })
    (hw : Walk a (shown m.2) m.1.state) (ticket : Nat) (result : Except TokenService.Failure Unit) :
    Lands a (m.andThen fun l => l.answer ticket result) := by
  refine ⟨hc, ?_⟩
  have hs : shown (m.2 ++ [.reply ticket result]) = shown m.2 := by
    rw [shown_append]
    exact List.append_nil _
  rw [andThen_snd, answer_snd, hs]
  exact hw

/-! ## The first attempt -/

section First

variable {l : Listener} (hs : l.supervisor = none) (hc : l.state = .connecting)
include hs hc

theorem lands_firstFailed (ticket : Nat) (f : Fault) : Lands l.state (l.firstFailed ticket f) := by
  unfold firstFailed
  split
  · refine Lands.answered (.of_idle hs ?_ ?_ ?_) (walk_goto ?_) _ _
    · exact fun _ _ => by simp
    · simp
    · simp
    · simp [hc, ListenerState.successors]
  · refine Lands.answered (.of_supervisor rfl ?_ ?_) ?_ _ _
    · simp [Loop.state?]
    · exact fun _ _ => by simp
    · rw [also_snd, shown_append]
      refine (walk_goto ?_).append (.stay _)
      simp [hc, ListenerState.successors]

omit hs in
theorem lands_firstOpened (ticket channel : Nat) : Lands l.state (l.firstOpened ticket channel) := by
  refine Lands.answered (.of_supervisor rfl ?_ ?_) (walk_goto ?_) _ _
  · simp [Loop.state?]
  · exact fun _ _ => by simp
  · simp [hc, ListenerState.successors]

theorem lands_firstAdvance (ticket : Nat) (a : Advance) : Lands l.state (l.firstAdvance ticket a) := by
  cases a with
  | asks a =>
    refine .of_quiet ?_ (shown_ask a) rfl
    exact {
      placed := by simp [firstAdvance, hs]
      starting := by simp [firstAdvance, hs, hc]
      idle := by simp [firstAdvance, hc] }
  | fails f => exact lands_firstFailed hs hc ticket f

theorem lands_firstTurn (ticket : Nat) (turn : Turn) : Lands l.state (l.firstTurn ticket turn) := by
  cases turn with
  | advances a => exact lands_firstAdvance hs hc ticket a
  | opens channel => exact lands_firstOpened hc ticket channel
  | breaks =>
    refine .of_quiet (.of_idle hs ?_ ?_ ?_) rfl rfl
    · exact fun _ _ => by simp [firstTurn]
    · simp [firstTurn, hc]
    · simp [firstTurn, hc]

end First

/-! ## The loop -/

section Loop

variable {l : Listener} {s : Supervisor} (hl : Unstarted l)
include hl

/-- The loop moves on, and the listener goes to the state that belongs to its new place. -/
theorem lands_withLoop {loop : Loop} {next : ListenerState} (s : Supervisor)
    (hp : ∀ state ∈ loop.state?, next = state)
    (hn : l.state = next ∨ next ∈ l.state.successors) :
    Lands l.state ((l.withLoop s loop).goto next) :=
  ⟨.of_supervisor rfl hp hl, walk_goto (l := l.withLoop s loop) hn⟩

/-- The loop ends, and the listener shows what it showed. -/
theorem lands_ended {effects : List Effect} (s : Supervisor) (he : shown effects = []) :
    Lands l.state (l.withLoop s .ended, effects) :=
  .of_quiet (.of_supervisor rfl (by simp [Loop.state?]) hl) he rfl

theorem lands_attemptFailed (hc : l.state = .connecting) (attempt : Nat) (f : Fault) :
    Lands l.state (l.attemptFailed s attempt f) := by
  unfold attemptFailed
  split
  · exact lands_withLoop hl s (by simp [Loop.state?]) (by simp [hc, ListenerState.successors])
  · refine .also (lands_withLoop hl _ ?_ ?_) rfl
    · simp [Loop.state?]
    · simp [hc, ListenerState.successors]

theorem lands_attemptAdvance (hc : l.state = .connecting) (attempt : Nat) (a : Advance) :
    Lands l.state (l.attemptAdvance s attempt a) := by
  cases a with
  | asks a =>
    refine .of_quiet (.of_supervisor rfl ?_ hl) (shown_ask a) rfl
    simpa [attemptAdvance, withLoop, Loop.state?] using hc
  | fails f => exact lands_attemptFailed hl hc attempt f

theorem lands_attemptTurn (hc : l.state = .connecting) (attempt : Nat) (turn : Turn) :
    Lands l.state (l.attemptTurn s attempt turn) := by
  cases turn with
  | advances a => exact lands_attemptAdvance hl hc attempt a
  | opens channel =>
    refine lands_withLoop hl _ ?_ ?_
    · simp [Loop.state?]
    · simp [hc, ListenerState.successors]
  | breaks => exact lands_ended hl s rfl

theorem lands_channelClosed (hc : l.state = .connected) (channel : Nat)
    (reason : Option DisconnectReason) : Lands l.state (l.channelClosed s channel reason) := by
  unfold channelClosed
  split
  · exact lands_ended hl s rfl
  · split
    · refine .also (lands_withLoop hl s ?_ ?_) rfl
      · simp [Loop.state?]
      · simp [hc, ListenerState.successors]
    · split
      · exact lands_ended hl s rfl
      · refine .also (lands_withLoop hl s ?_ ?_) rfl
        · simp [Loop.state?]
        · simp [hc, ListenerState.successors]

theorem lands_notice (hs : l.supervisor = some s) (hc : Coherent l) :
    Lands l.state (l.notice s) := by
  have hp := hc.placed s hs
  unfold notice
  split
  · rename_i channel hloop
    refine .of_quiet (.of_supervisor rfl ?_ hl) rfl rfl
    simpa [hloop, withLoop, Loop.state?] using hp
  · exact lands_ended hl s rfl
  · exact lands_ended hl s rfl
  · exact lands_ended hl s rfl
  · exact .of_quiet hc rfl rfl
  · exact .of_quiet hc rfl rfl

/-- Whatever the loop takes, it stays where the state says. -/
theorem lands_loopHears {g : Glance} {i : Input} {m : Move} (hs : l.supervisor = some s)
    (hc : Coherent l) (hm : LoopHears g i l s m) : Lands l.state m := by
  have hp := hc.placed s hs
  cases hm with
  | noticed _ _ => exact lands_notice hl hs hc
  | fell hloop _ =>
    refine .of_quiet (.of_supervisor rfl ?_ hl) rfl rfl
    simpa [hloop, withLoop, Loop.state?] using hp
  | closed hloop _ =>
    have hst : l.state = .connected := hp _ (by simp [hloop, Loop.state?])
    exact lands_channelClosed hl hst _ _
  | elapsed hloop _ =>
    have hst : l.state = .retryScheduled := hp _ (by simp [hloop, Loop.state?])
    refine lands_withLoop hl s ?_ ?_
    · simp [Loop.state?]
    · simp [hst, ListenerState.successors]
  | began hloop _ =>
    have hst : l.state = .connecting := hp _ (by simp [hloop, Loop.state?])
    exact .led (lands_attemptAdvance hl hst _ _) rfl
  | turned hloop _ =>
    have hst : l.state = .connecting := hp _ (by simp [hloop, Loop.state?])
    exact lands_attemptTurn hl hst _ _

end Loop

/-- Whatever an input does, it leads along the graph. -/
theorem lands_hears {g : Glance} {i : Input} {l : Listener} {m : Move} (hc : Coherent l)
    (hm : Hears g i l m) : Lands l.state m := by
  cases hm with
  | nothing _ => exact .of_quiet hc rfl rfl
  | queued _ =>
    refine .of_quiet ?_ rfl rfl
    exact { placed := hc.placed, starting := hc.starting, idle := hc.idle }
  | firstTurn hl _ =>
    obtain ⟨hs, hst⟩ := hc.starting _ _ hl
    exact lands_firstTurn hs hst _ _
  | looped hl hs hm => exact lands_loopHears hl hs hc hm

/-! ## Calls -/

section Calls

variable {l : Listener} (hl : Unstarted l)
include hl

theorem lands_afterLoop : Lands l.state l.afterLoop := by
  unfold afterLoop
  simp only []
  split
  · rename_i ht
    rw [ListenerState.isTerminal_iff] at ht
    refine .of_quiet (.of_idle rfl hl ?_ ?_) rfl rfl
    · simp [ht]
    · simp [ht]
  · rename_i ht
    rw [ListenerState.isTerminal_iff] at ht
    refine ⟨.of_idle rfl hl (by simp) (by simp), ?_⟩
    exact walk_goto (l := { l with supervisor := none }) (ListenerState.disconnected_mem_successors ht)

theorem lands_dismiss (hs : l.supervisor = none)
    (hst : l.state = .disconnected ∨ l.state = .permanentlyFailed) : Lands l.state l.dismiss := by
  unfold dismiss
  have hc : Coherent l := by
    refine .of_idle hs hl ?_ ?_ <;> rcases hst with h | h <;> simp [h]
  refine .andThen (.of_quiet hc ?_ rfl) ?_
  · split <;> rfl
  · show Lands l.state (if l.state.isTerminal then still l else l.goto .permanentlyFailed)
    split
    · exact .of_quiet hc rfl rfl
    · rename_i ht
      rw [ListenerState.isTerminal_iff] at ht
      refine lands_goto (.of_idle hs hl (by simp) (by simp)) (Or.inr ?_)
      simp [hst.resolve_right ht, ListenerState.successors]

theorem lands_finishStop (ticket : Nat) (disposing : Bool) :
    Lands l.state (l.finishStop ticket disposing) := by
  have hafter := lands_afterLoop hl
  have hl' : Unstarted l.afterLoop.1 := by
    rw [afterLoop_fst]
    exact hl
  have hlands : Lands l.state
      (l.afterLoop.andThen fun l => if disposing then l.dismiss else still l) := by
    refine hafter.andThen ?_
    split
    · refine lands_dismiss hl' (by rw [afterLoop_fst]) ?_
      rw [afterLoop_fst]
      by_cases ht : l.state = .permanentlyFailed
      · simp [ht]
      · simp [ht]
    · exact .of_quiet hafter.1 rfl rfl
  refine Lands.answered ?_ hlands.2 _ _
  exact { placed := hlands.1.placed, starting := by simp, idle := hlands.1.idle }

theorem lands_beginStop (hc : Coherent l) (ticket : Nat) (disposing : Bool) :
    Lands l.state (l.beginStop ticket disposing) := by
  unfold beginStop
  split
  · exact lands_finishStop hl _ _
  · rename_i s hs
    split
    · exact lands_finishStop hl _ _
    · refine .of_quiet (.of_supervisor rfl ?_ ?_) rfl rfl
      · exact hc.placed s hs
      · exact fun _ _ => by simp

theorem lands_begins (hc : Coherent l) {g : Glance} {ticket : Nat} {c : Call} {m : Move}
    (hm : Begins g ticket l c m) : Lands l.state m := by
  cases hm with
  | answered result =>
    exact .of_quiet { placed := hc.placed, starting := by simp, idle := hc.idle } rfl rfl
  | started ht hs =>
    obtain ⟨hc1, hc2⟩ := hc.idle hs
    have hnext : l.state = .connecting ∨ .connecting ∈ l.state.successors := by
      cases hst : l.state <;> simp_all [ListenerState.successors]
    refine .andThen (lands_goto (.of_idle hs hl (by simp) (by simp)) hnext) ?_
    exact .led (lands_firstAdvance (l := (l.goto .connecting).1) hs rfl ticket _) rfl
  | stopped => exact lands_beginStop hl hc ticket false
  | disposed =>
    refine lands_beginStop (l := { l with disposed := true }) hl ?_ ticket true
    exact { placed := hc.placed, starting := hc.starting, idle := hc.idle }

end Calls

/-- Whatever is served, it leads along the graph. -/
theorem lands_served {g : Glance} {calls : List (Nat × Call)} {l : Listener} {m : Move}
    (hc : Coherent l) (hm : Served g calls l m) : Lands l.state m := by
  cases hm with
  | joined hl _ _ => exact lands_finishStop (fun _ _ => by simp [hl]) _ _
  | called hl _ => exact lands_begins (fun _ _ => by simp [hl]) hc (begins_serve l g _ _)
  | dequeued _ =>
    refine .of_quiet ?_ rfl rfl
    exact { placed := hc.placed, starting := hc.starting, idle := hc.idle }

/-! ## Steps and runs -/

/-- `Walks l effects l'`: if `l` is coherent then so is `l'`, and `effects` show a walk
from the one's state to the other's. -/
def Walks (l : Listener) (effects : List Effect) (l' : Listener) : Prop :=
  Coherent l → Lands l.state (l', effects)

theorem composes_walks : Composes Walks where
  refl l hl := .of_quiet (l := l) hl rfl rfl
  trans h h' hl := by
    obtain ⟨hc, hw⟩ := h hl
    obtain ⟨hc', hw'⟩ := h' hc
    refine ⟨hc', ?_⟩
    rw [shown_append]
    exact hw.append hw'

/-- **Every step keeps a listener coherent and walks along the graph.** -/
theorem walks_step (l : Listener) (g : Glance) (i : Input) :
    Walks l (l.step g i).2 (l.step g i).1 :=
  rel_step composes_walks (fun _ _ _ _ hm hc => lands_hears hc hm)
    (fun _ _ _ _ hm hc => lands_served hc hm) l g i

theorem coherent_fresh (backoff : Backoff) (ownsSession : Bool) :
    Coherent (fresh backoff ownsSession) :=
  .of_idle rfl (fun _ _ => by simp [fresh]) (by simp [fresh]) (by simp [fresh])

/-- Every listener that a run reaches is coherent. -/
theorem coherent_run (backoff : Backoff) (ownsSession : Bool) (inputs : List (Glance × Input)) :
    Coherent ((fresh backoff ownsSession).run inputs).1 :=
  (rel_run composes_walks walks_step inputs _ (coherent_fresh backoff ownsSession)).1

end Listener

end Appliance
