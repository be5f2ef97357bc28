import Appliance.Proofs.Listener.Moves
import Mathlib.Tactic.ByContra

/-!
# Why a listener fails for good

A listener that has failed for good never opens a channel again, so it should not come to
that lightly. This file lists all that can make it do so, and follows two of the causes
back to where they come from: a disposal to the call that asked for it, and the reason of
a channel to the moment when the listener got it.

* `Ruin` — all that can make a listener fail for good.
* `ruin_of_step` — **a step that makes a listener fail for good has one of these causes.**
* `disposing_step`, `closing_step` — where a disposal under way, and the reason of a
  channel that is being closed, come from.
-/

namespace Appliance.Listener

/-! ## The causes -/

/-- `Disposing l`: a call to dispose of `l` is being served, or waits for its turn. -/
def Disposing (l : Listener) : Prop :=
  (∃ ticket, l.serving = .stopping ticket true) ∨ ∃ ticket, (ticket, .dispose) ∈ l.queue

/-- `Closing l n r`: the loop of `l` closes the channel `n`, which has ended with the
reason `r`. -/
def Closing (l : Listener) (n : Nat) (r : DisconnectReason) : Prop :=
  ∃ s, l.supervisor = some s ∧ s.loop = .closing n (some r)

/-- `Ruin g i l effects`: the input `i`, at which the session shows `g`, can make `l` fail
for good with these effects. -/
inductive Ruin (g : Glance) (i : Input) (l : Listener) (effects : List Effect) : Prop
  | disposed (h : l.Disposing ∨ ∃ ticket, i = .call ticket .dispose)
  /-- A channel is closed that has ended for good. -/
  | forbidden {n : Nat} {r : DisconnectReason} (h : l.Closing n r) (hr : r.isPermanent = true)
      (hi : i = .closed n)
  /-- The session cannot get a new token. -/
  | refused {f : Fault} (hs : l.stage? = some .refreshing) (hi : i = .refreshed (.error (.fault f)))
      (hf : f.isTransient = false)
  /-- The transport cannot open a channel. -/
  | unopened {f : Fault} (hs : l.stage? = some .opening) (hi : i = .opened (.error f))
      (hf : f.isTransient = false)
  /-- The session holds no token, though it has just got one or shows time left. -/
  | tokenless (hg : g.token = none)
      (h : (l.stage? = some .refreshing ∧ i = .refreshed (.ok ())) ∨
        (g.secondsLeft ≠ 0 ∧ ∃ first, .attempt first g ∈ effects))

/-- More effects do not matter. -/
theorem Ruin.mono {g : Glance} {i : Input} {l : Listener} {effects effects' : List Effect}
    (h : Ruin g i l effects) (hsub : effects ⊆ effects') : Ruin g i l effects' := by
  cases h with
  | disposed h => exact .disposed h
  | forbidden h hr hi => exact .forbidden h hr hi
  | refused hs hi hf => exact .refused hs hi hf
  | unopened hs hi hf => exact .unopened hs hi hf
  | tokenless hg h =>
    refine .tokenless hg (h.imp_right ?_)
    rintro ⟨hsec, first, hmem⟩
    exact ⟨hsec, first, hsub hmem⟩

/-! ## Attempts -/

/-- `a.IsFatal`: the attempt fails for good. -/
def Advance.IsFatal (a : Advance) : Prop := ∃ f, a = .fails f ∧ f.isTransient = false

theorem token_of_openWith {g : Glance} (h : (openWith g).IsFatal) : g.token = none := by
  obtain ⟨f, hf, -⟩ := h
  unfold openWith at hf
  split at hf
  · simp at hf
  · assumption

theorem token_of_beginAttempt {g : Glance} {refreshFirst : Bool}
    (h : (beginAttempt g refreshFirst).IsFatal) : g.token = none ∧ g.secondsLeft ≠ 0 := by
  unfold beginAttempt at h
  split at h
  · obtain ⟨f, hf, -⟩ := h
    simp at hf
  · rename_i hsec
    simp only [Bool.or_eq_true, decide_eq_true_eq, not_or] at hsec
    exact ⟨token_of_openWith h, hsec.2⟩

/-- The first attempt fails for good only by a fatal fault. -/
theorem firstAdvance_failed {l : Listener} {ticket : Nat} {a : Advance}
    (hl : l.state ≠ .permanentlyFailed)
    (h : (l.firstAdvance ticket a).1.state = .permanentlyFailed) : a.IsFatal := by
  cases a with
  | asks a => exact absurd h hl
  | fails f =>
    refine ⟨f, rfl, ?_⟩
    simp only [firstAdvance, firstFailed] at h
    split at h
    · rename_i hf
      simpa [Fault.isFatal] using hf
    · simp at h

/-- An attempt of the loop fails for good only by a fatal fault. -/
theorem attemptAdvance_failed {l : Listener} {s : Supervisor} {attempt : Nat} {a : Advance}
    (hl : l.state ≠ .permanentlyFailed)
    (h : (l.attemptAdvance s attempt a).1.state = .permanentlyFailed) : a.IsFatal := by
  cases a with
  | asks a => exact absurd h hl
  | fails f =>
    refine ⟨f, rfl, ?_⟩
    simp only [attemptAdvance, attemptFailed] at h
    split at h
    · rename_i hf
      simpa [Fault.isFatal] using hf
    · simp at h

/-- An answer makes an attempt fail for good in one of these ways. -/
theorem ruin_of_turn {g : Glance} {i : Input} {l : Listener} {stage : Stage} {a : Advance}
    (effects : List Effect) (hs : l.stage? = some stage)
    (ht : turn? g stage i = some (.advances a)) (ha : a.IsFatal) : Ruin g i l effects := by
  rcases turn?_cases ht with ⟨rfl, hi, hturn⟩ | ⟨rfl, f, hi, hturn⟩ | ⟨-, -, hturn⟩ |
    ⟨-, channel, -, hturn⟩ | ⟨rfl, f, hi, hturn⟩
  · cases hturn
    exact .tokenless (token_of_openWith ha) (Or.inl ⟨hs, hi⟩)
  · cases hturn
    obtain ⟨f', hf', hfatal⟩ := ha
    cases hf'
    exact .refused hs hi hfatal
  · simp at hturn
  · simp at hturn
  · cases hturn
    obtain ⟨f', hf', hfatal⟩ := ha
    cases hf'
    exact .unopened hs hi hfatal

/-! ## What an input does -/

theorem ruin_of_firstTurn {g : Glance} {i : Input} {l : Listener} {ticket : Nat} {stage : Stage}
    {turn : Turn} (effects : List Effect) (hl : l.state ≠ .permanentlyFailed)
    (hs : l.stage? = some stage) (ht : turn? g stage i = some turn)
    (h : (l.firstTurn ticket turn).1.state = .permanentlyFailed) : Ruin g i l effects := by
  cases turn with
  | advances a => exact ruin_of_turn effects hs ht (firstAdvance_failed hl h)
  | opens channel => simp [firstTurn, firstOpened] at h
  | breaks => exact absurd h hl

theorem ruin_of_loopHears {g : Glance} {i : Input} {l : Listener} {s : Supervisor} {m : Move}
    (hu : Unstarted l) (hs : l.supervisor = some s) (hl : l.state ≠ .permanentlyFailed)
    (hm : LoopHears g i l s m) (h : m.1.state = .permanentlyFailed) : Ruin g i l m.2 := by
  cases hm with
  | noticed hc hi =>
    unfold notice at h
    split at h <;> exact absurd h hl
  | fell hloop hi => exact absurd h hl
  | @closed channel reason hloop hi =>
    unfold channelClosed at h
    split at h
    · exact absurd h hl
    · rename_i r
      split at h
      · rename_i hr
        exact .forbidden ⟨s, hs, hloop⟩ hr hi
      · split at h
        · exact absurd h hl
        · simp at h
  | elapsed hloop hi => simp at h
  | began hloop hi =>
    obtain ⟨htoken, hsec⟩ := token_of_beginAttempt (attemptAdvance_failed hl h)
    exact .tokenless htoken (Or.inr ⟨hsec, false, List.mem_cons_self⟩)
  | @turned attempt stage turn hloop ht =>
    have hstage : l.stage? = some stage := by
      rw [stage?_of_unstarted hu, hs]
      simp [hloop, Loop.stage?]
    cases turn with
    | advances a => exact ruin_of_turn _ hstage ht (attemptAdvance_failed hl h)
    | opens channel => simp [attemptTurn, attemptOpened] at h
    | breaks => exact absurd h hl

theorem ruin_of_hears {g : Glance} {i : Input} {l : Listener} {m : Move}
    (hl : l.state ≠ .permanentlyFailed) (hm : Hears g i l m)
    (h : m.1.state = .permanentlyFailed) : Ruin g i l m.2 := by
  cases hm with
  | nothing hi => exact absurd h hl
  | queued hi => exact absurd h hl
  | firstTurn hserving ht => exact ruin_of_firstTurn _ hl (stage?_of_starting hserving) ht h
  | looped hu hs hm => exact ruin_of_loopHears hu hs hl hm h

/-! ## Calls -/

theorem state_afterLoop {l : Listener} (hl : l.state ≠ .permanentlyFailed) :
    l.afterLoop.1.state ≠ .permanentlyFailed := by
  rw [afterLoop_fst]
  simp only []
  split
  · exact hl
  · simp

/-- The end of a call makes a listener fail for good only if the call disposes of it. -/
theorem disposing_of_finishStop {l : Listener} {ticket : Nat} {disposing : Bool}
    (hl : l.state ≠ .permanentlyFailed)
    (h : (l.finishStop ticket disposing).1.state = .permanentlyFailed) : disposing = true := by
  cases disposing with
  | true => rfl
  | false => exact absurd h (state_afterLoop hl)

theorem disposing_of_beginStop {l : Listener} {ticket : Nat} {disposing : Bool}
    (hl : l.state ≠ .permanentlyFailed)
    (h : (l.beginStop ticket disposing).1.state = .permanentlyFailed) : disposing = true := by
  unfold beginStop at h
  split at h
  · exact disposing_of_finishStop hl h
  · split at h
    · exact disposing_of_finishStop hl h
    · exact absurd h hl

/-- A call that is served makes a listener fail for good by disposing of it, or by an
attempt that finds no token. -/
theorem ruin_of_begins {l : Listener} {g : Glance} {ticket : Nat} {c : Call} {m : Move}
    (hl : l.state ≠ .permanentlyFailed) (hm : Begins g ticket l c m)
    (h : m.1.state = .permanentlyFailed) :
    c = .dispose ∨ (g.token = none ∧ g.secondsLeft ≠ 0 ∧ .attempt true g ∈ m.2) := by
  cases hm with
  | answered result => exact absurd h hl
  | started ht hs =>
    have hfatal : (beginAttempt g false).IsFatal :=
      firstAdvance_failed (l := (l.goto .connecting).1) (by simp) h
    obtain ⟨htoken, hsec⟩ := token_of_beginAttempt hfatal
    refine Or.inr ⟨htoken, hsec, ?_⟩
    simp [firstAttempt]
  | stopped => exact absurd (disposing_of_beginStop hl h) (by simp)
  | disposed => exact Or.inl rfl

/-! ## Where a disposal comes from -/

/-- The first attempt leaves the calls that wait alone, and no disposal is under way. -/
theorem firstAdvance_queue (l : Listener) (ticket : Nat) (a : Advance) :
    (l.firstAdvance ticket a).1.queue = l.queue ∧
      ∀ ticket', (l.firstAdvance ticket a).1.serving ≠ .stopping ticket' true := by
  cases a with
  | asks a => simp [firstAdvance]
  | fails f =>
    simp only [firstAdvance, firstFailed]
    split <;> simp

/-- A call that is served leaves those that wait alone, and begins a disposal only if it
is one. -/
theorem begins_queue {l : Listener} {g : Glance} {ticket : Nat} {c : Call} {m : Move}
    (hm : Begins g ticket l c m) :
    m.1.queue = l.queue ∧ ∀ ticket', m.1.serving = .stopping ticket' true → c = .dispose := by
  have hstop : ∀ (l : Listener) (disposing : Bool),
      (l.beginStop ticket disposing).1.queue = l.queue ∧
        ∀ ticket', (l.beginStop ticket disposing).1.serving = .stopping ticket' true →
          disposing = true := by
    intro l disposing
    have hfinish : (l.finishStop ticket disposing).1.serving = .nothing := rfl
    unfold beginStop
    split
    · exact ⟨queue_finishStop _ _ _, fun _ h => by simp [hfinish] at h⟩
    · split
      · exact ⟨queue_finishStop _ _ _, fun _ h => by simp [hfinish] at h⟩
      · simp
  cases hm with
  | answered result => simp
  | started ht hs =>
    obtain ⟨hq, hs⟩ := firstAdvance_queue (l.goto .connecting).1 ticket (beginAttempt g false)
    exact ⟨hq, fun ticket' h => absurd h (hs ticket')⟩
  | stopped =>
    obtain ⟨hq, hs⟩ := hstop l false
    exact ⟨hq, fun ticket' h => by simpa using hs ticket' h⟩
  | disposed => exact ⟨(hstop { l with disposed := true } true).1, fun _ _ => rfl⟩

section Serving

variable {g : Glance} {calls : List (Nat × Call)} {D : Prop}
  (hcalls : ∀ ticket, (ticket, .dispose) ∈ calls → D)
include hcalls

/-- Serving calls begins only disposals that were called for. -/
theorem disposing_served {l : Listener} {m : Move} (hl : l.Disposing → D)
    (hm : Served g calls l m) (h : m.1.Disposing) : D := by
  cases hm with
  | joined hserving hs he =>
    rcases h with ⟨ticket, h⟩ | ⟨ticket, h⟩
    · simp [finishStop] at h
    · rw [queue_finishStop] at h
      exact hl (Or.inr ⟨ticket, h⟩)
  | @called ticket c hserving hc =>
    obtain ⟨hq, hdispose⟩ := begins_queue (begins_serve l g ticket c)
    rcases h with ⟨ticket', h⟩ | ⟨ticket', h⟩
    · rw [hdispose ticket' h] at hc
      exact hcalls ticket hc
    · rw [hq] at h
      exact hl (Or.inr ⟨ticket', h⟩)
  | dequeued hq =>
    rcases h with ⟨ticket, h⟩ | ⟨ticket, h⟩
    · exact hl (Or.inl ⟨ticket, h⟩)
    · exact hcalls ticket (hq h)

theorem disposing_serves {l l' : Listener} {effects : List Effect} (hl : l.Disposing → D)
    (hs : Serves g calls l effects l') (h : l'.Disposing) : D := by
  induction hs with
  | done l => exact hl h
  | next hm _ ih => exact ih (disposing_served hcalls hl hm) h

/-- Serving calls makes a listener fail for good by a disposal, or by an attempt that
finds no token. -/
theorem ruin_of_serves {l l' : Listener} {effects : List Effect} (hd : l.Disposing → D)
    (hl : l.state ≠ .permanentlyFailed) (hs : Serves g calls l effects l')
    (h : l'.state = .permanentlyFailed) :
    D ∨ (g.token = none ∧ g.secondsLeft ≠ 0 ∧ .attempt true g ∈ effects) := by
  induction hs with
  | done l => exact absurd h hl
  | @next l l' m effects hm hrest ih =>
    by_cases hfail : m.1.state = .permanentlyFailed
    · -- the calls that are served after it do not matter
      cases hm with
      | @joined ticket disposing s hserving hs he =>
        refine Or.inl (hd (Or.inl ⟨ticket, ?_⟩))
        rw [hserving, disposing_of_finishStop hl hfail]
      | called hserving hc =>
        rcases ruin_of_begins hl (begins_serve _ _ _ _) hfail with rfl | ⟨htoken, hsec, hmem⟩
        · exact Or.inl (hcalls _ hc)
        · exact Or.inr ⟨htoken, hsec, List.mem_append_left _ hmem⟩
      | dequeued hq => exact absurd hfail hl
    · rcases ih (disposing_served hcalls hd hm) hfail h with hD | ⟨htoken, hsec, hmem⟩
      · exact Or.inl hD
      · exact Or.inr ⟨htoken, hsec, List.mem_append_right _ hmem⟩

end Serving

/-- The loop leaves the call being served, and those that wait, alone. -/
theorem loopHears_queue {g : Glance} {i : Input} {l : Listener} {s : Supervisor} {m : Move}
    (hm : LoopHears g i l s m) : m.1.serving = l.serving ∧ m.1.queue = l.queue := by
  have hadvance : ∀ attempt a, (l.attemptAdvance s attempt a).1.serving = l.serving ∧
      (l.attemptAdvance s attempt a).1.queue = l.queue := by
    intro attempt a
    cases a with
    | asks a => exact ⟨rfl, rfl⟩
    | fails f =>
      simp only [attemptAdvance, attemptFailed]
      split <;> exact ⟨rfl, rfl⟩
  cases hm with
  | noticed hc hi =>
    unfold notice
    split <;> exact ⟨rfl, rfl⟩
  | fell hloop hi => exact ⟨rfl, rfl⟩
  | closed hloop hi =>
    unfold channelClosed
    split
    · exact ⟨rfl, rfl⟩
    · split
      · exact ⟨rfl, rfl⟩
      · split <;> exact ⟨rfl, rfl⟩
  | elapsed hloop hi => exact ⟨rfl, rfl⟩
  | began hloop hi => exact hadvance _ _
  | turned hloop ht =>
    rename_i attempt stage turn
    cases turn with
    | advances a => exact hadvance attempt a
    | opens channel => exact ⟨rfl, rfl⟩
    | breaks => exact ⟨rfl, rfl⟩

/-- An input begins no disposal but by calling for it. -/
theorem disposing_hears {g : Glance} {i : Input} {l : Listener} {m : Move} (hm : Hears g i l m)
    (h : m.1.Disposing) : l.Disposing ∨ ∃ ticket, i = .call ticket .dispose := by
  cases hm with
  | nothing hi => exact Or.inl h
  | @queued ticket c hi =>
    rcases h with ⟨ticket', h⟩ | ⟨ticket', h⟩
    · exact Or.inl (Or.inl ⟨ticket', h⟩)
    · rcases List.mem_append.1 h with h | h
      · exact Or.inl (Or.inr ⟨ticket', h⟩)
      · simp only [List.mem_singleton, Prod.mk.injEq] at h
        rw [← h.2] at hi
        exact Or.inr ⟨ticket, hi⟩
  | @firstTurn ticket stage turn hserving ht =>
    have hturn : (l.firstTurn ticket turn).1.queue = l.queue ∧
        ∀ ticket', (l.firstTurn ticket turn).1.serving ≠ .stopping ticket' true := by
      cases turn with
      | advances a => exact firstAdvance_queue l ticket a
      | opens channel => simp [firstTurn, firstOpened]
      | breaks => simp [firstTurn]
    rcases h with ⟨ticket', h⟩ | ⟨ticket', h⟩
    · exact absurd h (hturn.2 ticket')
    · rw [hturn.1] at h
      exact Or.inl (Or.inr ⟨ticket', h⟩)
  | looped hu hs hm =>
    obtain ⟨hserving, hqueue⟩ := loopHears_queue hm
    rw [Disposing, hserving, hqueue] at h
    exact Or.inl h

/-- **A disposal under way was called for.** -/
theorem disposing_step {l : Listener} {g : Glance} {i : Input} (h : (l.step g i).1.Disposing) :
    l.Disposing ∨ ∃ ticket, i = .call ticket .dispose := by
  obtain ⟨effects, hs, -⟩ := step_parts l g i
  have hhear := disposing_hears (hears_hear l g i)
  exact disposing_serves (fun ticket hmem => hhear (Or.inr ⟨ticket, hmem⟩)) hhear hs h

/-- **What makes a listener fail for good.**  Only a disposal that was called for, a channel
that has ended for good, a fatal fault of the session or the transport, or a session without
a token. -/
theorem ruin_of_step {l : Listener} {g : Glance} {i : Input} (hl : l.state ≠ .permanentlyFailed)
    (h : (l.step g i).1.state = .permanentlyFailed) : Ruin g i l (l.step g i).2 := by
  obtain ⟨effects, hs, heffects⟩ := step_parts l g i
  have hhear := disposing_hears (hears_hear l g i)
  rw [heffects]
  by_cases hfail : (l.hear g i).1.state = .permanentlyFailed
  · exact (ruin_of_hears hl (hears_hear l g i) hfail).mono (List.subset_append_left _ _)
  · rcases ruin_of_serves (fun ticket hmem => hhear (Or.inr ⟨ticket, hmem⟩)) hhear hfail hs h with
      hD | ⟨htoken, hsec, hmem⟩
    · exact .disposed hD
    · exact .tokenless htoken (Or.inr ⟨hsec, true, List.mem_append_right _ hmem⟩)

/-! ## Where the reason of a channel comes from -/

/-- A listener whose loop does not close a channel with a reason. -/
theorem not_closing {l : Listener} {s : Supervisor} {n : Nat} {r : DisconnectReason}
    (hs : l.supervisor = some s) (hloop : s.loop ≠ .closing n (some r)) : ¬ l.Closing n r := by
  rintro ⟨s', hs', hloop'⟩
  rw [hs] at hs'
  cases hs'
  exact hloop hloop'

section Reasons

variable {l : Listener} {n : Nat} {r : DisconnectReason}

theorem closing_firstAdvance {ticket : Nat} {a : Advance}
    (h : (l.firstAdvance ticket a).1.Closing n r) : l.Closing n r := by
  cases a with
  | asks a => exact h
  | fails f =>
    simp only [firstAdvance, firstFailed] at h
    split at h
    · exact h
    · exact absurd h (not_closing rfl (by simp))

theorem closing_attemptAdvance {s : Supervisor} {attempt : Nat} {a : Advance} :
    ¬ (l.attemptAdvance s attempt a).1.Closing n r := by
  cases a with
  | asks a => exact not_closing rfl (by simp)
  | fails f =>
    simp only [attemptAdvance, attemptFailed]
    split <;> exact not_closing rfl (by simp)

theorem closing_loopHears {g : Glance} {i : Input} {s : Supervisor} {m : Move}
    (hm : LoopHears g i l s m) (h : m.1.Closing n r) :
    l.Closing n r ∨ i = .disconnected n r := by
  cases hm with
  | noticed hc hi =>
    unfold notice at h
    split at h
    · exact absurd h (not_closing rfl (by simp))
    · exact absurd h (not_closing rfl (by simp))
    · exact absurd h (not_closing rfl (by simp))
    · exact absurd h (not_closing rfl (by simp))
    · exact Or.inl h
    · exact Or.inl h
  | fell hloop hi =>
    obtain ⟨s', hs', hloop'⟩ := h
    simp only [withLoop, Option.some.injEq] at hs'
    rw [← hs'] at hloop'
    simp only [Loop.closing.injEq, Option.some.injEq] at hloop'
    obtain ⟨rfl, rfl⟩ := hloop'
    exact Or.inr hi
  | closed hloop hi =>
    unfold channelClosed at h
    split at h
    · exact absurd h (not_closing rfl (by simp))
    · split at h
      · exact absurd h (not_closing rfl (by simp))
      · split at h <;> exact absurd h (not_closing rfl (by simp))
  | elapsed hloop hi => exact absurd h (not_closing rfl (by simp))
  | began hloop hi => exact absurd h closing_attemptAdvance
  | @turned attempt stage turn hloop ht =>
    cases turn with
    | advances a => exact absurd h closing_attemptAdvance
    | opens channel => exact absurd h (not_closing rfl (by simp))
    | breaks => exact absurd h (not_closing rfl (by simp))

theorem closing_hears {g : Glance} {i : Input} {m : Move} (hm : Hears g i l m)
    (h : m.1.Closing n r) : l.Closing n r ∨ i = .disconnected n r := by
  cases hm with
  | nothing hi => exact Or.inl h
  | queued hi => exact Or.inl h
  | @firstTurn ticket stage turn hserving ht =>
    cases turn with
    | advances a => exact Or.inl (closing_firstAdvance h)
    | opens channel => exact absurd h (not_closing rfl (by simp))
    | breaks => exact Or.inl h
  | looped hu hs hm => exact closing_loopHears hm h

/-- A call that ends after the loop leaves no loop. -/
theorem not_closing_finishStop (l : Listener) (ticket : Nat) (disposing : Bool) :
    ¬ (l.finishStop ticket disposing).1.Closing n r := by
  have hnone : (l.finishStop ticket disposing).1.supervisor = none := by
    cases disposing <;> simp [finishStop, afterLoop_fst, dismiss_fst]
  rintro ⟨s, hs, -⟩
  simp [hnone] at hs

theorem closing_beginStop {ticket : Nat} {disposing : Bool}
    (h : (l.beginStop ticket disposing).1.Closing n r) : l.Closing n r := by
  unfold beginStop at h
  split at h
  · exact absurd h (not_closing_finishStop _ _ _)
  · rename_i s hs
    split at h
    · exact absurd h (not_closing_finishStop _ _ _)
    · obtain ⟨s', hs', hloop⟩ := h
      simp only [still_fst, Option.some.injEq] at hs'
      rw [← hs'] at hloop
      exact ⟨s, hs, hloop⟩

theorem closing_begins {g : Glance} {ticket : Nat} {c : Call} {m : Move}
    (hm : Begins g ticket l c m) (h : m.1.Closing n r) : l.Closing n r := by
  cases hm with
  | answered result => exact h
  | started ht hs => exact closing_firstAdvance (l := (l.goto .connecting).1) h
  | stopped => exact closing_beginStop h
  | disposed => exact closing_beginStop (l := { l with disposed := true }) h

theorem closing_served {g : Glance} {calls : List (Nat × Call)} {m : Move}
    (hm : Served g calls l m) (h : m.1.Closing n r) : l.Closing n r := by
  cases hm with
  | joined hserving hs he => exact absurd h (not_closing_finishStop _ _ _)
  | called hserving hc => exact closing_begins (begins_serve _ _ _ _) h
  | dequeued hq => exact h

end Reasons

/-- **A channel that is being closed ended with a reason that the listener got.** -/
theorem closing_step {l : Listener} {g : Glance} {i : Input} {n : Nat} {r : DisconnectReason}
    (h : (l.step g i).1.Closing n r) : l.Closing n r ∨ i = .disconnected n r := by
  obtain ⟨effects, hs, -⟩ := step_parts l g i
  have hcomposes : Composes fun l _ l' => l'.Closing n r → l.Closing n r :=
    ⟨fun _ h => h, fun h h' hc => h (h' hc)⟩
  exact closing_hears (hears_hear l g i)
    (rel_serves hcomposes (fun _ _ hm => closing_served hm) hs h)

end Appliance.Listener
