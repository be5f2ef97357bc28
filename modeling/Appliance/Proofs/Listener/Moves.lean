import Appliance.Listener.History

/-!
# What one input can do to a listener

A step of a listener is one thing that the input does, followed by the calls whose turn
has come. This file says once what each of the two can be, so that a fact about every
run needs one short case for each move.

* `LoopHears`, `Hears` — what an input does by itself.
* `Begins`             — how a call begins to be served.
* `Served`, `Serves`   — one call that is served, and all that are served in a step.
* `step_parts`         — **a step is what its input does and then what it serves.**
* `rel_step`, `rel_run` — a relation that composes and holds of every single move holds
  of every step and of every run.
-/

namespace Appliance

namespace Listener

/-! ## Moves -/

@[simp] theorem still_fst (l : Listener) : (still l).1 = l := rfl

@[simp] theorem still_snd (l : Listener) : (still l).2 = [] := rfl

@[simp] theorem andThen_fst (m : Move) (f : Listener → Move) : (m.andThen f).1 = (f m.1).1 := rfl

@[simp] theorem andThen_snd (m : Move) (f : Listener → Move) :
    (m.andThen f).2 = m.2 ++ (f m.1).2 := rfl

@[simp] theorem also_fst (m : Move) (effects : List Effect) : (m.also effects).1 = m.1 := rfl

@[simp] theorem also_snd (m : Move) (effects : List Effect) :
    (m.also effects).2 = m.2 ++ effects := rfl

@[simp] theorem led_fst (m : Move) (effect : Effect) : (m.led effect).1 = m.1 := rfl

@[simp] theorem led_snd (m : Move) (effect : Effect) : (m.led effect).2 = effect :: m.2 := rfl

@[simp] theorem goto_fst (l : Listener) (next : ListenerState) :
    (l.goto next).1 = { l with state := next } := rfl

theorem goto_snd (l : Listener) (next : ListenerState) :
    (l.goto next).2 = if l.state = next then [] else [.show next] := rfl

@[simp] theorem answer_fst (l : Listener) (ticket : Nat)
    (result : Except TokenService.Failure Unit) :
    (l.answer ticket result).1 = { l with serving := .nothing } := rfl

@[simp] theorem answer_snd (l : Listener) (ticket : Nat)
    (result : Except TokenService.Failure Unit) :
    (l.answer ticket result).2 = [.reply ticket result] := rfl

/-! ## What an attempt waits for -/

theorem stage?_of_starting {l : Listener} {ticket : Nat} {stage : Stage}
    (h : l.serving = .starting ticket stage) : l.stage? = some stage := by
  simp [stage?, h]

/-- `Unstarted l`: no first attempt is being made. -/
def Unstarted (l : Listener) : Prop := ∀ ticket stage, l.serving ≠ .starting ticket stage

/-- What the loop's attempt waits for, if it makes one. -/
def Loop.stage? : Loop → Option Stage
  | .attempting _ stage => some stage
  | _ => none

theorem stage?_of_unstarted {l : Listener} (h : Unstarted l) :
    l.stage? = l.supervisor.bind fun s => s.loop.stage? := by
  unfold Listener.stage?
  split
  · rename_i ticket stage hl
    exact absurd hl (h ticket stage)
  · cases l.supervisor with
    | none => rfl
    | some s => cases hs : s.loop <;> simp [hs, Loop.stage?]

/-- What an input means for an attempt that waits. -/
theorem turn?_cases {g : Glance} {stage : Stage} {i : Input} {turn : Turn}
    (h : turn? g stage i = some turn) :
    (stage = .refreshing ∧ i = .refreshed (.ok ()) ∧ turn = .advances (openWith g)) ∨
    (stage = .refreshing ∧ ∃ f, i = .refreshed (.error (.fault f)) ∧ turn = .advances (.fails f)) ∨
    (stage = .refreshing ∧ i = .refreshed (.error .beyondClock) ∧ turn = .breaks) ∨
    (stage = .opening ∧ ∃ channel, i = .opened (.ok channel) ∧ turn = .opens channel) ∨
    (stage = .opening ∧ ∃ f, i = .opened (.error f) ∧ turn = .advances (.fails f)) := by
  unfold turn? at h
  split at h <;> simp_all

theorem turn?_eq_none_iff {g : Glance} {stage : Stage} {i : Input} :
    turn? g stage i = none ↔ stage.isEndedBy i = false := by
  cases stage <;> cases i with
  | refreshed result => rcases result with (_ | _) | _ <;> simp [turn?, Stage.isEndedBy]
  | opened result => cases result <;> simp [turn?, Stage.isEndedBy]
  | _ => simp [turn?, Stage.isEndedBy]

/-! ## What an input does -/

/-- `LoopHears g i l s m`: the loop `s` of `l` takes the input `i` by the move `m`, while
the session shows `g`. -/
inductive LoopHears (g : Glance) (i : Input) (l : Listener) (s : Supervisor) : Move → Prop
  | noticed (hc : s.cancelled = true) (hi : i = .noticed) : LoopHears g i l s (l.notice s)
  | fell {channel : Nat} {reason : DisconnectReason} (hs : s.loop = .watching channel)
      (hi : i = .disconnected channel reason) :
      LoopHears g i l s (l.withLoop s (.closing channel (some reason)), [.close channel])
  | closed {channel : Nat} {reason : Option DisconnectReason}
      (hs : s.loop = .closing channel reason) (hi : i = .closed channel) :
      LoopHears g i l s (l.channelClosed s channel reason)
  | elapsed {attempt : Nat} (hs : s.loop = .waiting attempt) (hi : i = .elapsed) :
      LoopHears g i l s ((l.withLoop s (.ready attempt)).goto .connecting)
  | began {attempt : Nat} (hs : s.loop = .ready attempt) (hi : i = .proceed) :
      LoopHears g i l s (l.loopAttempt g s attempt)
  | turned {attempt : Nat} {stage : Stage} {turn : Turn}
      (hs : s.loop = .attempting attempt stage) (ht : turn? g stage i = some turn) :
      LoopHears g i l s (l.attemptTurn s attempt turn)

/-- `Hears g i l m`: the listener `l` takes the input `i` by the move `m`, while the
session shows `g`. No call is served by it. -/
inductive Hears (g : Glance) (i : Input) (l : Listener) : Move → Prop
  | nothing (hi : l.isAnswer i = false) : Hears g i l (still l)
  | queued {ticket : Nat} {c : Call} (hi : i = .call ticket c) :
      Hears g i l (still { l with queue := l.queue ++ [(ticket, c)] })
  | firstTurn {ticket : Nat} {stage : Stage} {turn : Turn}
      (hl : l.serving = .starting ticket stage) (ht : turn? g stage i = some turn) :
      Hears g i l (l.firstTurn ticket turn)
  | looped {s : Supervisor} {m : Move} (hl : Unstarted l) (hs : l.supervisor = some s)
      (hm : LoopHears g i l s m) : Hears g i l m

/-- The loop takes an input in one of these ways, or not at all. -/
theorem loopInput_cases (l : Listener) (g : Glance) (s : Supervisor) (i : Input) :
    (l.loopInput g s i = still l ∧ s.loop.stage?.any (·.isEndedBy i) = false) ∨
      LoopHears g i l s (l.loopInput g s i) := by
  unfold loopInput
  split
  · split
    · rename_i hc
      exact Or.inr (.noticed hc rfl)
    · refine Or.inl ⟨rfl, ?_⟩
      cases s.loop.stage? with
      | none => rfl
      | some stage => cases stage <;> rfl
  · rename_i channel n r hs
    split
    · rename_i hn
      subst hn
      exact Or.inr (.fell hs rfl)
    · exact Or.inl ⟨rfl, by simp [hs, Loop.stage?]⟩
  · rename_i channel reason n hs
    split
    · rename_i hn
      subst hn
      exact Or.inr (.closed hs rfl)
    · exact Or.inl ⟨rfl, by simp [hs, Loop.stage?]⟩
  · rename_i attempt hs
    exact Or.inr (.elapsed hs rfl)
  · rename_i attempt hs
    exact Or.inr (.began hs rfl)
  · rename_i attempt stage hs _
    split
    · rename_i turn ht
      exact Or.inr (.turned hs ht)
    · rename_i ht
      exact Or.inl ⟨rfl, by simpa [hs, Loop.stage?] using turn?_eq_none_iff.1 ht⟩
  · refine Or.inl ⟨rfl, ?_⟩
    cases hs : s.loop with
    | attempting attempt stage => simp_all
    | _ => rfl

/-! ## What is served -/

/-- `Begins g ticket l c m`: the listener `l` begins to serve the call `c` by the move `m`. -/
inductive Begins (g : Glance) (ticket : Nat) (l : Listener) : Call → Move → Prop
  /-- There is nothing to be done for the call. -/
  | answered {c : Call} (result : Except TokenService.Failure Unit) :
      Begins g ticket l c (l.answer ticket result)
  | started (ht : l.state ≠ .permanentlyFailed) (hs : l.supervisor = none) :
      Begins g ticket l .start ((l.goto .connecting).andThen fun l => l.firstAttempt g ticket)
  | stopped : Begins g ticket l .stop (l.beginStop ticket false)
  | disposed : Begins g ticket l .dispose ({ l with disposed := true }.beginStop ticket true)

theorem begins_serve (l : Listener) (g : Glance) (ticket : Nat) (c : Call) :
    Begins g ticket l c (l.serve g ticket c) := by
  cases c with
  | start =>
    simp only [serve]
    split
    · exact .answered _
    · split
      · exact .answered _
      · rename_i ht
        split
        · exact .answered _
        · rename_i hs
          exact .started (by simpa using ht) (by simpa using hs)
  | stop => exact .stopped
  | dispose =>
    simp only [serve]
    split
    · exact .answered _
    · exact .disposed

/-- `Served g calls l m`: the listener `l` serves one call by the move `m`, which ends the
call that waited for the loop, or begins one of `calls`. -/
inductive Served (g : Glance) (calls : List (Nat × Call)) (l : Listener) : Move → Prop
  | joined {ticket : Nat} {disposing : Bool} {s : Supervisor}
      (hl : l.serving = .stopping ticket disposing) (hs : l.supervisor = some s)
      (he : s.loop = .ended) : Served g calls l (l.finishStop ticket disposing)
  | called {ticket : Nat} {c : Call} (hl : l.serving = .nothing) (hc : (ticket, c) ∈ calls) :
      Served g calls l (l.serve g ticket c)
  | dequeued {queue : List (Nat × Call)} (hq : queue ⊆ calls) :
      Served g calls l (still { l with queue })

/-- `Serves g calls l effects l'`: serving one call after another leads from `l` to `l'`. -/
inductive Serves (g : Glance) (calls : List (Nat × Call)) :
    Listener → List Effect → Listener → Prop
  | done (l : Listener) : Serves g calls l [] l
  | next {l l' : Listener} {m : Move} {effects : List Effect} (hm : Served g calls l m)
      (h : Serves g calls m.1 effects l') : Serves g calls l (m.2 ++ effects) l'

theorem Served.serves {g : Glance} {calls : List (Nat × Call)} {l : Listener} {m : Move}
    (hm : Served g calls l m) : Serves g calls l m.2 m.1 := by
  have h := Serves.next hm (.done m.1)
  rwa [List.append_nil] at h

theorem Serves.append {g : Glance} {calls : List (Nat × Call)} {l l' l'' : Listener}
    {effects effects' : List Effect} (h : Serves g calls l effects l')
    (h' : Serves g calls l' effects' l'') : Serves g calls l (effects ++ effects') l'' := by
  induction h with
  | done l => exact h'
  | next hm _ ih =>
    rw [List.append_assoc]
    exact .next hm (ih h')

/-- Calls are served in order until one has to wait. -/
theorem serves_serveAll (g : Glance) (calls : List (Nat × Call)) :
    ∀ (queue : List (Nat × Call)) (l : Listener), l.serving = .nothing → queue ⊆ calls →
      Serves g calls l (serveAll g queue l).2 (serveAll g queue l).1 := by
  intro queue
  induction queue with
  | nil =>
    intro l _ _
    exact (Served.dequeued (List.nil_subset calls)).serves
  | cons call rest ih =>
    obtain ⟨ticket, c⟩ := call
    intro l hl hq
    have hc : Served g calls l (l.serve g ticket c) := .called hl (hq List.mem_cons_self)
    have hrest : rest ⊆ calls := fun x hx => hq (List.mem_cons_of_mem _ hx)
    simp only [serveAll, andThen_fst, andThen_snd]
    refine .next hc ?_
    split
    · rename_i hn
      exact ih _ hn hrest
    · exact (Served.dequeued hrest).serves

theorem serves_serveNext (g : Glance) (l : Listener) :
    Serves g l.queue l (l.serveNext g).2 (l.serveNext g).1 := by
  unfold serveNext
  split
  · rename_i hn
    exact serves_serveAll g l.queue l.queue l hn (List.Subset.refl _)
  · exact .done l

theorem serves_joinLoop (g : Glance) (calls : List (Nat × Call)) (l : Listener) :
    Serves g calls l l.joinLoop.2 l.joinLoop.1 := by
  unfold joinLoop
  split
  · rename_i hl hs
    split
    · rename_i he
      exact (Served.joined hl hs he).serves
    · exact .done l
  · exact .done l

theorem afterLoop_fst (l : Listener) :
    l.afterLoop.1 =
      { l with
        supervisor := none
        state := if l.state.isTerminal then l.state else .disconnected } := by
  unfold afterLoop
  simp only []
  split <;> rfl

theorem dismiss_fst (l : Listener) :
    l.dismiss.1 =
      { l with state := if l.state.isTerminal then l.state else .permanentlyFailed } := by
  unfold dismiss
  simp only [andThen_fst]
  split <;> rfl

theorem queue_finishStop (l : Listener) (ticket : Nat) (disposing : Bool) :
    (l.finishStop ticket disposing).1.queue = l.queue := by
  cases disposing <;> simp [finishStop, afterLoop_fst, dismiss_fst]

theorem queue_joinLoop (l : Listener) : l.joinLoop.1.queue = l.queue := by
  unfold joinLoop
  split
  · split
    · exact queue_finishStop _ _ _
    · rfl
  · rfl

/-! ## Steps and runs -/

theorem hears_hear (l : Listener) (g : Glance) (i : Input) : Hears g i l (l.hear g i) := by
  unfold hear
  split
  · exact .queued rfl
  · split
    · rename_i ticket stage hl
      unfold firstInput
      split
      · rename_i turn ht
        exact .firstTurn hl ht
      · rename_i ht
        refine .nothing ?_
        rw [isAnswer, stage?_of_starting hl]
        exact turn?_eq_none_iff.1 ht
    · rename_i s hs hl
      rcases loopInput_cases l g s i with ⟨h, hi⟩ | h
      · rw [h]
        refine .nothing ?_
        rw [isAnswer, stage?_of_unstarted hl, hs]
        exact hi
      · exact .looped hl hs h
    · rename_i hs hl
      refine .nothing ?_
      rw [isAnswer, stage?_of_unstarted hl, hs]
      rfl

/-- **A step is what its input does and then what it serves.** -/
theorem step_parts (l : Listener) (g : Glance) (i : Input) :
    ∃ effects, Serves g (l.hear g i).1.queue (l.hear g i).1 effects (l.step g i).1 ∧
      (l.step g i).2 = (l.hear g i).2 ++ effects := by
  have hjoin := serves_joinLoop g (l.hear g i).1.queue (l.hear g i).1
  have hserve := serves_serveNext g (l.hear g i).1.joinLoop.1
  rw [queue_joinLoop] at hserve
  exact ⟨_, hjoin.append hserve, by simp only [step, andThen_fst, andThen_snd, List.append_assoc]⟩

section Relations

variable {R : Listener → List Effect → Listener → Prop}

/-- `Composes R`: nothing is an `R`-move, and one `R`-move after another is one. -/
structure Composes (R : Listener → List Effect → Listener → Prop) : Prop where
  refl : ∀ l, R l [] l
  trans : ∀ {l l' l'' effects effects'}, R l effects l' → R l' effects' l'' →
    R l (effects ++ effects') l''

theorem rel_serves (hR : Composes R) {g : Glance} {calls : List (Nat × Call)}
    (h : ∀ l m, Served g calls l m → R l m.2 m.1) {l l' : Listener} {effects : List Effect}
    (hs : Serves g calls l effects l') : R l effects l' := by
  induction hs with
  | done l => exact hR.refl l
  | next hm _ ih => exact hR.trans (h _ _ hm) ih

/-- What holds of every single move holds of every step. -/
theorem rel_step (hR : Composes R) (hears : ∀ g i l m, Hears g i l m → R l m.2 m.1)
    (serves : ∀ g calls l m, Served g calls l m → R l m.2 m.1) (l : Listener) (g : Glance)
    (i : Input) : R l (l.step g i).2 (l.step g i).1 := by
  obtain ⟨effects, hs, he⟩ := step_parts l g i
  rw [he]
  exact hR.trans (hears g i l _ (hears_hear l g i)) (rel_serves hR (serves g _) hs)

/-- What holds of every step holds of every run. -/
theorem rel_run (hR : Composes R) (h : ∀ l g i, R l (l.step g i).2 (l.step g i).1)
    (inputs : List (Glance × Input)) (l : Listener) : R l (l.run inputs).2 (l.run inputs).1 := by
  induction inputs generalizing l with
  | nil => exact hR.refl l
  | cons input rest ih => exact hR.trans (h l input.1 input.2) (ih _)

end Relations

end Listener

end Appliance
