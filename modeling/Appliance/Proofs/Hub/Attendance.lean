import Appliance.Proofs.Hub.Healing
import Appliance.Proofs.Hub.Tasks

/-!
# Whose task is at work

A listener attends to one channel at a time: the one that it holds or waits for to close,
or the one that arrives. This file shows that no task of another channel ever has anything
to do, whatever the tasks, the listener, its callers, the hub and the clock do in which order.

* `Attends`  — the channel that the listener attends to.
* `Attended` — the invariant: only the task of that channel is at work, it is the task of the
  channel opened last, and every other channel has given its reason.
* `Outcome`, `attended_tell` — what the listener may make of what it is told.
* `attended_spawn`, `attended_happen`, `attended_arrive`, `attended_carry`, `attended_finish`
  — the single steps.
* **`attended_step`** — the invariant holds after every step, and what is seen of it is said.
-/

namespace Appliance.HubTasks

open Hub (Channel Line Opening ChannelTask)
open Listener (Glance LogLine)

/-- `w.Attends n`: the listener attends to the channel `n`. -/
def Attends (w : HubTasks) (n : Nat) : Prop :=
  w.hub.listener.phase.On n ∨ w.arriving = some n

/-- `Attended w`: only the task of the channel that the listener attends to is at work. -/
structure Attended (w : HubTasks) : Prop where
  coherent : w.hub.listener.Coherent
  steady : w.hub.listener.Steady
  orderly : ∀ l ∈ w.hub.lines, l.Orderly
  numbered : w.tasks.length = w.hub.lines.length
  /-- An opening is waited for, and has brought no channel. -/
  opening : w.hub.opening.isSome = true →
    w.hub.listener.stage? = some .opening ∧ w.arriving = none
  /-- So is a channel that arrives. -/
  arriving : ∀ n, w.arriving = some n → w.hub.listener.stage? = some .opening
  /-- The channel that is attended to was opened last. -/
  last : ∀ n, w.Attends n → n + 1 = w.hub.lines.length
  /-- Only its task is at work. -/
  busy : ∀ (n : Nat) t, w.tasks[n]? = some t → t.isIdle = false → w.Attends n
  /-- Every other channel has given its reason. -/
  settled : ∀ n, n < w.hub.lines.length → w.Attends n ∨ (w.hub.reason? n).isSome = true
  fits : ∀ (n : Nat) t, w.tasks[n]? = some t → t.Fits (w.hub.reason? n)

theorem attended_fresh (options : Listener.Options) (ownsSession : Bool) (callback : Callback)
    (subscriptions : Subscriptions Handler) :
    Attended (fresh options ownsSession callback subscriptions) where
  coherent := Listener.coherent_fresh options.backoff ownsSession
  steady := Listener.steady_fresh options.backoff ownsSession
  orderly := by simp [fresh, HubListener.fresh]
  numbered := rfl
  opening := by simp [fresh, HubListener.fresh]
  arriving := by simp [fresh]
  last n h := by
    rcases h with h | h
    · exact absurd h (Listener.not_on_shut n)
    · cases h
  busy := by simp [fresh]
  settled := by simp [fresh, HubListener.fresh]
  fits := by simp [fresh]

section Attended

variable {w : HubTasks} (h : Attended w)
include h

theorem Attended.lt_of_task {n : Nat} {t : ChannelTask} (ht : w.tasks[n]? = some t) :
    n < w.hub.lines.length := by
  rw [← h.numbered]
  exact (List.getElem?_eq_some_iff.1 ht).1

/-- While something is waited for to open, the listener has no channel. -/
theorem Attended.shut_of_stage {stage : Listener.Stage}
    (hs : w.hub.listener.stage? = some stage) (n : Nat) : ¬w.hub.listener.phase.On n := by
  rw [(h.coherent.of_stage hs).1]
  exact Listener.not_on_shut n

/-- The listener attends to one channel at most. -/
theorem Attended.unique {n m : Nat} (hn : w.Attends n) (hm : w.Attends m) : n = m := by
  have hn' := h.last n hn
  have hm' := h.last m hm
  omega

/-- A channel whose task is at work is attended to, while the listener shows `connected`
or `connecting`. -/
theorem Attended.state_of_attends {n : Nat} (hn : w.Attends n) :
    w.hub.listener.state = .connected ∨ w.hub.listener.state = .connecting := by
  rcases hn with hon | harr
  · left
    cases hs : w.hub.listener.supervisor with
    | none =>
      rw [Listener.phase_of_none hs] at hon
      exact absurd hon (Listener.not_on_shut n)
    | some s =>
      rw [Listener.phase_of_some hs] at hon
      have hplaced := h.coherent.placed s hs
      cases hloop : s.loop with
      | watching channel => exact hplaced _ (by rw [hloop]; rfl)
      | closing channel reason => exact hplaced _ (by rw [hloop]; rfl)
      | _ =>
        rw [hloop] at hon
        exact absurd hon (Listener.not_on_shut n)
  · exact .inr (h.coherent.of_stage (h.arriving n harr)).2

end Attended

/-! ## What the listener is told -/

/-- `Outcome w w' lines`: on the way from `w` to `w'` the listener has told `lines`.  It was
quiet and attends to the same channel as before, or it attends to none and every task is
idle, its channel having given the reason. -/
def Outcome (w w' : HubTasks) (lines : List LogLine) : Prop :=
  ((∀ line ∈ lines, line.Quiet) ∧ ∀ n, w'.Attends n ↔ w.Attends n) ∨
    (∀ n, ¬w'.Attends n) ∧ (∀ (n : Nat) t, w.tasks[n]? = some t → t.isIdle = true) ∧
      ∀ n, n < w.hub.lines.length → (w.hub.reason? n).isSome = true

/-- The listener keeps the invariant, whatever it is told, if the outcome is of this kind. -/
theorem attended_tell {w : HubTasks} (h : Attended w) (g : Glance) (i : Listener.Input)
    {hub : HubListener} {arriving : Option Nat} (hsame : HubListener.SameLines w.hub hub)
    (hlistener : hub.listener = w.hub.listener)
    (hopening : hub.opening.isSome = true → w.hub.opening.isSome = true)
    (hopened : ∀ result, i = .opened result → hub.opening.isSome = false)
    (harriving : ∀ n, arriving = some n → hub.opening.isSome = false ∧
      (∀ e ∈ (hub.listener.step g i).2, e.Shut) ∧
      (hub.listener.step g i).1.stage? = some .opening)
    (houtcome : Outcome w { w with hub := hub.tell g i, arriving } (hub.listener.stepLog g i)) :
    Attended { w with hub := hub.tell g i, arriving } := by
  obtain ⟨htold, hlines, hafter⟩ := HubListener.tell_keeps hub g i
  have hsame' := hsame.trans hlines
  have hcoherent : hub.listener.Coherent := hlistener ▸ h.coherent
  have hsteady : hub.listener.Steady := hlistener ▸ h.steady
  have hwaits : Listener.Waits hub.opening.isSome (hub.listener.step g i) := Listener.stage_step
    (fun ho => by rw [hlistener]; exact (h.opening (hopening ho)).1) g hopened
  have hreason : ∀ n, (hub.tell g i).reason? n = w.hub.reason? n := hsame'.reason
  refine {
    coherent := by
      rw [htold]
      exact (Listener.walks_step _ g i hcoherent).1
    steady := by
      rw [htold]
      exact (Listener.obeys_stepLog hcoherent hsteady g i).2.2
    orderly := hsame'.orderly h.orderly
    numbered := h.numbered.trans hsame'.length.symm
    opening := fun ho => ?_
    arriving := fun n hn => by
      rw [htold]
      exact (harriving n hn).2.2
    last := fun n hn => ?_
    busy := fun n t ht hidle => ?_
    settled := fun n hn => ?_
    fits := fun n t ht => by
      rw [hreason]
      exact h.fits n t ht }
  · rw [hafter] at ho
    refine ⟨by rw [htold]; exact hwaits ho, ?_⟩
    -- nothing opens while a channel arrives
    cases harr : arriving with
    | none => rfl
    | some n =>
      obtain ⟨hclosed, hshut, -⟩ := harriving n harr
      rw [hclosed, Listener.opensAfter_of_shut hshut] at ho
      cases ho
  · rcases houtcome with ⟨-, hattends⟩ | ⟨hnone, -⟩
    · rw [hsame'.length]
      exact h.last n ((hattends n).1 hn)
    · exact absurd hn (hnone n)
  · rcases houtcome with ⟨-, hattends⟩ | ⟨-, hall, -⟩
    · exact (hattends n).2 (h.busy n t ht hidle)
    · rw [hall n t ht] at hidle
      cases hidle
  · rw [hsame'.length] at hn
    rw [hreason]
    rcases houtcome with ⟨-, hattends⟩ | ⟨-, -, hall⟩
    · rcases h.settled n hn with hn | hn
      · exact .inl ((hattends n).2 hn)
      · exact .inr hn
    · exact .inr (hall n hn)

/-- Without a channel that arrives, the listener attends to the channel of its phase. -/
theorem attends_of_none {w : HubTasks} (ha : w.arriving = none) (n : Nat) :
    w.Attends n ↔ w.hub.listener.phase.On n := by
  simp [Attends, ha]

/-- Where nothing is attended to, every task is idle and every channel has given its
reason. -/
theorem Attended.idle {w : HubTasks} (h : Attended w) (hnone : ∀ n, ¬w.Attends n) :
    (∀ (n : Nat) t, w.tasks[n]? = some t → t.isIdle = true) ∧
      ∀ n, n < w.hub.lines.length → (w.hub.reason? n).isSome = true := by
  refine ⟨fun n t ht => ?_, fun n hn => (h.settled n hn).resolve_left (hnone n)⟩
  cases hidle : t.isIdle with
  | true => rfl
  | false => exact absurd (h.busy n t ht hidle) (hnone n)

/-- A channel that is waited for may close when its task is done. -/
theorem Attended.idle_of_done {w : HubTasks} (h : Attended w) {n : Nat} {t : ChannelTask}
    (hn : w.Attends n) (ht : w.tasks[n]? = some t) (hdone : t.isDone = true) :
    (∀ (m : Nat) t, w.tasks[m]? = some t → t.isIdle = true) ∧
      ∀ m, m < w.hub.lines.length → (w.hub.reason? m).isSome = true := by
  simp only [ChannelTask.isDone, Bool.and_eq_true] at hdone
  have hreason := (h.fits n t ht).of_idle hdone.1
  refine ⟨fun m t' ht' => ?_, fun m hm => ?_⟩
  · cases hidle : t'.isIdle with
    | true => rfl
    | false =>
      obtain rfl := h.unique hn (h.busy m t' ht' hidle)
      obtain rfl := Option.some.inj (ht.symm.trans ht')
      rw [hdone.1] at hidle
      cases hidle
  · rcases h.settled m hm with hm' | hm'
    · obtain rfl := h.unique hn hm'
      rw [← hreason]
      exact hdone.2
    · exact hm'

/-- What the listener makes of what it is told while no channel arrives. -/
theorem outcome_of_settled {w : HubTasks} (h : Attended w) (ha : w.arriving = none) (g : Glance)
    {i : Listener.Input} {hub : HubListener} (hlistener : hub.listener = w.hub.listener)
    (hopened : ∀ n, i ≠ .opened (.ok n))
    (hclosed : ∀ n, i = .closed n → ∃ t, w.tasks[n]? = some t ∧ t.isDone = true) :
    Outcome w { w with hub := hub.tell g i } (hub.listener.stepLog g i) := by
  have htold : (hub.tell g i).listener = (w.hub.listener.step g i).1 := by
    rw [(HubListener.tell_keeps hub g i).1, hlistener]
  have hattends : ∀ n, Attends { w with hub := hub.tell g i } n ↔
      (w.hub.listener.step g i).1.phase.On n := by
    intro n
    rw [attends_of_none (w := { w with hub := hub.tell g i }) ha, htold]
  rw [hlistener]
  rcases w.hub.listener.phase.shut_or_on with hshut | ⟨n, hon⟩
  · have hshut' := Listener.phase_step_shut h.coherent h.steady g hshut hopened
    have hnone : ∀ n, ¬w.Attends n := fun n hn => by
      rw [attends_of_none ha, hshut] at hn
      exact Listener.not_on_shut n hn
    refine .inr ⟨fun n hn => ?_, h.idle hnone⟩
    rw [hattends, hshut'] at hn
    exact Listener.not_on_shut n hn
  · rcases Listener.phase_step h.coherent h.steady g hon i with ⟨hquiet, hon'⟩ | ⟨rfl, hshut'⟩
    · refine .inl ⟨hquiet, fun m => ?_⟩
      rw [hattends, attends_of_none ha]
      constructor
      · intro hm
        exact hon'.unique hm ▸ hon
      · intro hm
        exact hon.unique hm ▸ hon'
    · obtain ⟨t, ht, hdone⟩ := hclosed n rfl
      refine .inr ⟨fun m hm => ?_, h.idle_of_done ((attends_of_none ha n).2 hon) ht hdone⟩
      rw [hattends, hshut'] at hm
      exact Listener.not_on_shut m hm

/-! ## Single steps -/

/-- The task of a channel that opens comes after the others. -/
theorem task_of_spawn {tasks : List ChannelTask} {n : Nat} {t : ChannelTask}
    (h : (tasks ++ [ChannelTask.fresh])[n]? = some t) :
    tasks[n]? = some t ∨ n = tasks.length ∧ t = .fresh := by
  rcases Nat.lt_trichotomy n tasks.length with hn | rfl | hn
  · left
    rwa [List.getElem?_append_left hn] at h
  · right
    rw [List.getElem?_concat_length] at h
    exact ⟨rfl, (Option.some.inj h).symm⟩
  · have hlength : (tasks ++ [ChannelTask.fresh]).length ≤ n := by
      rw [List.length_append, List.length_singleton]
      omega
    rw [List.getElem?_eq_none hlength] at h
    cases h

/-- A channel that opens is attended to from then on. -/
theorem attended_spawn {w : HubTasks} (h : Attended w) (ha : w.arriving = none)
    (ho : w.hub.hasOpened = true) : Attended w.spawn := by
  obtain ⟨pending, hopening⟩ := HubListener.hasOpened_iff.1 ho
  have hstage := (h.opening (by rw [hopening]; rfl)).1
  have hspawn : w.spawn = ⟨{ w.hub with opening := none, lines := w.hub.lines ++ [.fresh pending] },
      w.tasks ++ [.fresh], some w.hub.lines.length⟩ := by
    simp [spawn, HubListener.transport, hopening]
  have hold : ∀ n, ¬w.Attends n := fun n hn => by
    rcases hn with hn | hn
    · exact h.shut_of_stage hstage n hn
    · rw [ha] at hn
      cases hn
  obtain ⟨hidle, hreasons⟩ := h.idle hold
  have hreason : ∀ n, n < w.hub.lines.length → w.spawn.hub.reason? n = w.hub.reason? n := by
    intro n hn
    rw [hspawn]
    simp [HubListener.reason?, List.getElem?_append_left hn]
  have hunbegun : w.spawn.hub.reason? w.hub.lines.length = none := by
    rw [hspawn]
    simp [HubListener.reason?, Line.reason?, Line.channel?, Line.fresh]
  rw [hspawn] at hreason hunbegun ⊢
  refine {
    coherent := h.coherent
    steady := h.steady
    orderly := List.forall_mem_append.2 ⟨h.orderly, by simp [Line.Orderly, Line.fresh]⟩
    numbered := by simp [h.numbered]
    opening := fun ho => by cases ho
    arriving := fun _ _ => hstage
    last := fun n hn => ?_
    busy := fun n t ht hbusy => ?_
    settled := fun n hn => ?_
    fits := fun n t ht => ?_ }
  · rcases hn with hn | hn
    · exact absurd hn (h.shut_of_stage hstage n)
    · cases hn
      simp
  · rcases task_of_spawn ht with ht | ⟨-, rfl⟩
    · rw [hidle n t ht] at hbusy
      cases hbusy
    · cases hbusy
  · simp only [List.length_append, List.length_singleton] at hn
    rcases Nat.lt_succ_iff_lt_or_eq.1 hn with hn | rfl
    · rw [hreason n hn]
      exact .inr (hreasons n hn)
    · exact .inl (.inr rfl)
  · rcases task_of_spawn ht with ht | ⟨hn, rfl⟩
    · rw [hreason n (h.lt_of_task ht)]
      exact h.fits n t ht
    · rw [hn, h.numbered, hunbegun]
      exact ChannelTask.fits_fresh

/-- A channel that goes on gives its idle task what fits: something to do only if it had not
given its reason, and it keeps a reason that it has given. -/
theorem Attended.turned {w : HubTasks} (h : Attended w) {e : HubListener.Event} {n : Nat} {l : Line}
    {effects : List Channel.Effect} (hturn : w.hub.turning? e = some (n, l, effects))
    {t : ChannelTask} (ht : w.tasks[n]? = some t) (hidle : t.isIdle = true) :
    ChannelTask.Fits { t with due := effects } (l.reason? w.hub.options) ∧
      (ChannelTask.isIdle { t with due := effects } = false → w.hub.reason? n = none) ∧
      ((w.hub.reason? n).isSome = true → l.reason? w.hub.options = w.hub.reason? n) := by
  obtain ⟨-, -, l₀, hl₀, hwhat⟩ := HubListener.turning?_spec h.orderly hturn
  obtain ⟨hdue, hcalling⟩ := ChannelTask.isIdle_iff.1 hidle
  have hreason : w.hub.reason? n = l₀.reason? w.hub.options := by
    simp [HubListener.reason?, hl₀]
  have hfits := h.fits n t ht
  rw [hreason] at hfits ⊢
  rcases hwhat with ⟨hnone, c, hparts, hc⟩ | ⟨rfl, hsame⟩
  · rw [hnone] at hfits ⊢
    rw [hc]
    exact ⟨hfits.turn hidle hparts, fun _ => rfl, fun hsome => by cases hsome⟩
  · rw [← hdue, hsame]
    exact ⟨hfits, fun hbusy => absurd (hidle.symm.trans hbusy) (by simp), fun _ => rfl⟩

/-- A channel goes on, and what comes of it is left to its task. -/
theorem attended_turn {w : HubTasks} (h : Attended w) {e : HubListener.Event} {n : Nat} {l : Line}
    {effects : List Channel.Effect} (hturn : w.hub.turning? e = some (n, l, effects))
    (hidle : w.tasks[n]?.any ChannelTask.isIdle = true) :
    Attended { w with
      hub := { w.hub with lines := w.hub.lines.set n l }
      tasks := w.tasks.modify n fun t => { t with due := effects } } := by
  obtain ⟨-, horderly, l₀, hl₀, -⟩ := HubListener.turning?_spec h.orderly hturn
  obtain ⟨t₀, ht₀, hidle⟩ := (Option.any_eq_true _ _).1 hidle
  obtain ⟨hfits, hbusy, hkeeps⟩ := h.turned hturn ht₀ hidle
  have hlt : n < w.hub.lines.length := (List.getElem?_eq_some_iff.1 hl₀).1
  have hreason : ∀ m, HubListener.reason? { w.hub with lines := w.hub.lines.set n l } m =
      if n = m then l.reason? w.hub.options else w.hub.reason? m := by
    intro m
    by_cases hm : n = m
    · subst hm
      simp [HubListener.reason?, List.getElem?_set_self hlt]
    · simp [HubListener.reason?, List.getElem?_set_ne hm, hm]
  have htask : ∀ (m : Nat) t, (w.tasks.modify n fun t => { t with due := effects })[m]? = some t →
      n = m ∧ t = { t₀ with due := effects } ∨ n ≠ m ∧ w.tasks[m]? = some t := by
    intro m t ht
    by_cases hm : n = m
    · subst hm
      rw [List.getElem?_modify_eq, ht₀] at ht
      exact .inl ⟨rfl, (Option.some.inj ht).symm⟩
    · rw [List.getElem?_modify_ne _ _ hm] at ht
      exact .inr ⟨hm, ht⟩
  refine {
    coherent := h.coherent
    steady := h.steady
    orderly := fun l' hl' => ?_
    numbered := by simp [h.numbered]
    opening := h.opening
    arriving := h.arriving
    last := fun m hm => by
      rw [List.length_set]
      exact h.last m hm
    busy := fun m t ht hwork => ?_
    settled := fun m hm => ?_
    fits := fun m t ht => ?_ }
  · rcases List.mem_or_eq_of_mem_set hl' with hl' | rfl
    · exact h.orderly l' hl'
    · exact horderly
  · rcases htask m t ht with ⟨rfl, rfl⟩ | ⟨-, ht⟩
    · rcases h.settled n hlt with hn | hn
      · exact hn
      · rw [hbusy hwork] at hn
        cases hn
    · exact h.busy m t ht hwork
  · rw [List.length_set] at hm
    refine (h.settled m hm).imp_right fun hm' => ?_
    rw [hreason]
    split
    · next heq =>
      subst heq
      rwa [hkeeps hm']
    · exact hm'
  · rw [hreason]
    rcases htask m t ht with ⟨rfl, rfl⟩ | ⟨hm, ht⟩
    · rw [if_pos rfl]
      exact hfits
    · rw [if_neg hm]
      exact h.fits m t ht

/-- What the listener does not hear of leaves its attention alone. -/
theorem attended_unheard {w : HubTasks} (h : Attended w) {hub : HubListener}
    (hsame : HubListener.SameLines w.hub hub) (hlistener : hub.listener = w.hub.listener)
    (hopening : hub.opening.isSome = true → w.hub.opening.isSome = true) :
    Attended { w with hub } := by
  have hattends : ∀ n, Attends { w with hub } n ↔ w.Attends n := by
    intro n
    simp [Attends, hlistener]
  refine {
    coherent := hlistener ▸ h.coherent
    steady := hlistener ▸ h.steady
    orderly := hsame.orderly h.orderly
    numbered := h.numbered.trans hsame.length.symm
    opening := fun ho => hlistener ▸ h.opening (hopening ho)
    arriving := fun n hn => hlistener ▸ h.arriving n hn
    last := fun n hn => ?_
    busy := fun n t ht hbusy => (hattends n).2 (h.busy n t ht hbusy)
    settled := fun n hn => ?_
    fits := fun n t ht => ?_ }
  · rw [hsame.length]
    exact h.last n ((hattends n).1 hn)
  · rw [hsame.length] at hn
    rw [hsame.reason, hattends]
    exact h.settled n hn
  · rw [hsame.reason]
    exact h.fits n t ht

/-! ## Steps and runs -/

/-- The event whose handler the task of a channel has called. -/
def calling? (w : HubTasks) (n : Nat) : Option Appliance.Event := w.tasks[n]?.bind (·.calling)

/-- `Tells w w' lines`: the way from `w` to `w'` tells `lines`, and nothing of handlers. While
one runs the lines are quiet. -/
structure Tells (w w' : HubTasks) (lines : List LogLine) : Prop where
  state : w'.hub.listener.state = Listener.shownAfter w.hub.listener.state lines
  calling : ∀ n, w'.calling? n = w.calling? n
  length : w.hub.lines.length ≤ w'.hub.lines.length
  quiet : ∀ n, (w.calling? n).isSome = true → ∀ line ∈ lines, line.Quiet

/-- `Seen w w' marks`: the way from `w` to `w'` is seen as `marks`. -/
inductive Seen (w : HubTasks) : HubTasks → List Mark → Prop
  | told {w' : HubTasks} {lines : List LogLine} (h : Tells w w' lines) :
      Seen w w' (lines.map .told)
  /-- The task of a channel that is attended to calls a handler, and no other one runs. -/
  | called {w' : HubTasks} {n : Nat} {e : Appliance.Event} (hn : w.Attends n)
      (hnone : ∀ k, w.calling? k = none)
      (hcalling : ∀ k, w'.calling? k = if n = k then some e else none)
      (hsame : HubListener.SameLines w.hub w'.hub)
      (hlistener : w'.hub.listener = w.hub.listener) : Seen w w' [.called n e]
  /-- The handler that it has called returns. -/
  | returned {w' : HubTasks} {n : Nat}
      (hcalling : ∀ k, w'.calling? k = if n = k then none else w.calling? k)
      (hhub : w'.hub = w.hub) : Seen w w' [.returned n]

theorem Tells.of_eq {w w' : HubTasks} (hlistener : w'.hub.listener = w.hub.listener)
    (hcalling : ∀ n, w'.calling? n = w.calling? n)
    (hlength : w.hub.lines.length ≤ w'.hub.lines.length) : Tells w w' [] where
  state := by
    rw [hlistener]
    rfl
  calling := hcalling
  length := hlength
  quiet := by simp

/-- Nothing is seen. -/
theorem Seen.of_eq {w w' : HubTasks} (hlistener : w'.hub.listener = w.hub.listener)
    (hcalling : ∀ n, w'.calling? n = w.calling? n)
    (hlength : w.hub.lines.length ≤ w'.hub.lines.length) : Seen w w' [] := by
  have htells : Tells w w' [] := .of_eq hlistener hcalling hlength
  exact .told htells

/-- Nothing is seen where nothing happens. -/
theorem Seen.refl (w : HubTasks) : Seen w w [] := .of_eq rfl (fun _ => rfl) (Nat.le_refl _)

/-- What the listener tells. -/
theorem tells_tell {w : HubTasks} (h : Attended w) (g : Glance) {i : Listener.Input}
    {hub : HubListener} {arriving : Option Nat} (hsame : HubListener.SameLines w.hub hub)
    (hlistener : hub.listener = w.hub.listener)
    (houtcome : Outcome w { w with hub := hub.tell g i, arriving } (hub.listener.stepLog g i)) :
    Tells w { w with hub := hub.tell g i, arriving } (hub.listener.stepLog g i) := by
  obtain ⟨htold, hlines, -⟩ := HubListener.tell_keeps hub g i
  refine ⟨?_, fun _ => rfl, (hsame.trans hlines).length.ge, fun n hn => ?_⟩
  · rw [htold, ← hlistener]
    exact Listener.state_step (hlistener ▸ h.coherent) g i
  · rcases houtcome with ⟨hquiet, -⟩ | ⟨-, hidle, -⟩
    · exact hquiet
    · obtain ⟨e, he⟩ := Option.isSome_iff_exists.1 hn
      obtain ⟨t, ht, hcalling⟩ := Option.bind_eq_some_iff.1 he
      rw [(ChannelTask.isIdle_iff.1 (hidle n t ht)).2] at hcalling
      cases hcalling

/-- While a channel arrives, a call is at most answered. -/
theorem outcome_of_arriving {w : HubTasks} (h : Attended w) {n : Nat} (ha : w.arriving = some n)
    (g : Glance) (ticket : Nat) (c : Listener.Call) :
    Outcome w { w with hub := w.hub.tell g (.call ticket c) }
      (w.hub.listener.stepLog g (.call ticket c)) := by
  have hstage := h.arriving n ha
  have hstage' := (Listener.step_call_of_opening hstage g ticket c).2
  have hcoherent := (Listener.walks_step _ g (.call ticket c) h.coherent).1
  have hshut' := (hcoherent.of_stage hstage').1
  refine .inl ⟨Listener.quiet_call_of_opening hstage g ticket c, fun m => ?_⟩
  simp only [Attends, (HubListener.tell_keeps w.hub g (.call ticket c)).1, hshut',
    (h.coherent.of_stage hstage).1]

/-- The channel that arrives is the listener's. -/
theorem outcome_of_arrival {w : HubTasks} (h : Attended w) {n : Nat} (ha : w.arriving = some n)
    (g : Glance) :
    Outcome w { w with hub := w.hub.tell g (.opened (.ok n)), arriving := none }
      (w.hub.listener.stepLog g (.opened (.ok n))) := by
  have hstage := h.arriving n ha
  obtain ⟨hquiet, hon⟩ := Listener.phase_step_opened h.coherent h.steady g hstage n
  refine .inl ⟨hquiet, fun m => ?_⟩
  rw [attends_of_none (w := { w with hub := w.hub.tell g (.opened (.ok n)), arriving := none }) rfl,
    (HubListener.tell_keeps w.hub g (.opened (.ok n))).1]
  constructor
  · intro hm
    exact .inr (hon.unique hm ▸ ha)
  · intro hm
    rcases hm with hm | hm
    · exact absurd hm (h.shut_of_stage hstage m)
    · rw [ha] at hm
      exact Option.some.inj hm ▸ hon

/-- Nothing opens while a channel arrives. -/
theorem Attended.opening_of_arriving {w : HubTasks} (h : Attended w) {n : Nat}
    (ha : w.arriving = some n) : w.hub.opening.isSome = false := by
  cases ho : w.hub.opening.isSome with
  | false => rfl
  | true =>
    have hnone := (h.opening ho).2
    rw [ha] at hnone
    cases hnone

/-- What the listener hears while no channel arrives. -/
theorem attended_heard {w : HubTasks} (h : Attended w) (g : Glance) {e : HubListener.Event}
    {i : Listener.Input} (hi : w.hub.input? e = some i) (hturn : w.hub.turning? e = none)
    (hadmits : w.admits e = true) (ha : w.arriving = none)
    (hopened : e = .opened → w.hub.hasOpened = false) :
    Attended { w with hub := (w.hub.transport e).tell g i } ∧
      Tells w { w with hub := (w.hub.transport e).tell g i }
        ((w.hub.transport e).listener.stepLog g i) := by
  obtain ⟨hsame, hlistener, hopening⟩ := HubListener.sameLines_transport hturn hopened
  have htells := HubListener.tells_of_input? hi
  have hok : ∀ n, i ≠ .opened (.ok n) := by
    rintro n rfl
    cases htells with
    | opened ho =>
      have hnot := hopened rfl
      simp [HubListener.hasOpened, ho] at hnot
  have hended : ∀ result, i = .opened result → (w.hub.transport e).opening.isSome = false := by
    rintro result rfl
    cases htells with
    | opened _ => exact absurd rfl (hok _)
    | failed ho => simp [HubListener.transport, ho]
  have hclosed : ∀ n, i = .closed n → ∃ t, w.tasks[n]? = some t ∧ t.isDone = true := by
    rintro n rfl
    cases htells with
    | closed _ =>
      simp only [admits, Bool.and_eq_true] at hadmits
      exact (Option.any_eq_true _ _).1 hadmits.2
  have houtcome := outcome_of_settled h ha g hlistener hok hclosed
  refine ⟨attended_tell h g i hsame hlistener hopening hended (fun n hn => ?_) houtcome,
    tells_tell h g hsame hlistener houtcome⟩
  rw [ha] at hn
  cases hn

/-- A call that comes while a channel arrives. -/
theorem attended_called {w : HubTasks} (h : Attended w) {n : Nat} (ha : w.arriving = some n)
    (g : Glance) (ticket : Nat) (c : Listener.Call) :
    Attended { w with hub := w.hub.tell g (.call ticket c) } ∧
      Tells w { w with hub := w.hub.tell g (.call ticket c) }
        (w.hub.listener.stepLog g (.call ticket c)) := by
  have houtcome := outcome_of_arriving h ha g ticket c
  have hsame := HubListener.SameLines.refl w.hub
  obtain ⟨hreplies, hstage⟩ :=
    Listener.step_call_of_opening (h.arriving n ha) g ticket c
  refine ⟨attended_tell h g _ hsame rfl id (by simp) (fun m _ => ?_) houtcome,
    tells_tell h g hsame rfl houtcome⟩
  refine ⟨h.opening_of_arriving ha, fun e he => ?_, hstage⟩
  have hreply := hreplies e he
  cases e with
  | reply ticket' result => exact trivial
  | _ => exact hreply.elim

/-- What happens to the listener and its channels. -/
theorem attended_happen {w : HubTasks} (h : Attended w) (g : Glance) {e : HubListener.Event}
    (hadmits : w.admits e = true)
    (hopened : e = .opened → w.arriving = none ∧ w.hub.hasOpened = false) :
    Attended (w.happen g e).1 ∧ Seen w (w.happen g e).1 (w.happen g e).2 := by
  unfold happen
  split
  · next n l effects hturn =>
    have hidle : w.tasks[n]?.any ChannelTask.isIdle = true := by
      cases HubListener.turns_of_turning? hturn with
      | began => exact hadmits
      | took => exact hadmits
    refine ⟨attended_turn h hturn hidle, .of_eq rfl (fun k => ?_) ?_⟩
    · simp only [calling?, List.getElem?_modify]
      cases w.tasks[k]? with
      | none => rfl
      | some t => by_cases hk : n = k <;> simp [hk]
    · simp
  · next hturn =>
    obtain ⟨hsame, hlistener, hopening⟩ :=
      HubListener.sameLines_transport hturn fun he => (hopened he).2
    split
    · next i hi =>
      by_cases ha : w.arriving = none
      · obtain ⟨hattended, htells⟩ :=
          attended_heard h g hi hturn hadmits ha fun he => (hopened he).2
        exact ⟨hattended, .told htells⟩
      · -- while a channel arrives only calls are heard
        obtain ⟨n, ha⟩ := Option.ne_none_iff_exists'.1 ha
        cases HubListener.tells_of_input? hi with
        | call ticket c =>
          obtain ⟨hattended, htells⟩ := attended_called h ha g ticket c
          exact ⟨hattended, .told htells⟩
        | opened _ =>
          rw [(hopened rfl).1] at ha
          cases ha
        | failed _ =>
          rw [(hopened rfl).1] at ha
          cases ha
        | _ => simp [admits, ha] at hadmits
    · exact ⟨attended_unheard h hsame hlistener hopening,
        .of_eq hlistener (fun _ => rfl) hsame.length.ge⟩

/-- The listener gets the channel that arrives, or learns that none does. -/
theorem attended_arrive {w : HubTasks} (h : Attended w) (g : Glance) :
    Attended (w.arrive g).1 ∧ Seen w (w.arrive g).1 (w.arrive g).2 := by
  unfold arrive
  split
  · next n ha =>
    have houtcome := outcome_of_arrival h ha g
    have hsame := HubListener.SameLines.refl w.hub
    exact ⟨attended_tell h g _ hsame rfl id (fun _ _ => h.opening_of_arriving ha) (by simp) houtcome,
      .told (tells_tell h g hsame rfl houtcome)⟩
  · next ha =>
    split
    · exact ⟨h, .refl w⟩
    · next ho => exact attended_happen h g rfl fun _ => ⟨ha, by simpa using ho⟩

theorem getElem?_set_task {w : HubTasks} {n : Nat} {t : ChannelTask} (ht : w.tasks[n]? = some t)
    (t' : ChannelTask) (k : Nat) :
    (w.tasks.set n t')[k]? = if n = k then some t' else w.tasks[k]? := by
  have hlt := (List.getElem?_eq_some_iff.1 ht).1
  by_cases hk : n = k
  · subst hk
    simp [List.getElem?_set_self hlt]
  · rw [List.getElem?_set_ne hk, if_neg hk]

/-- A task that is at work goes on, and handlers may run. -/
theorem attended_work {w : HubTasks} (h : Attended w) {n : Nat} {t t' : ChannelTask}
    (ht : w.tasks[n]? = some t) (hbusy : t.isIdle = false) {hub : HubListener}
    (hsame : HubListener.SameLines w.hub hub) (hlistener : hub.listener = w.hub.listener)
    (hopening : hub.opening = w.hub.opening)
    (hfits : ∀ reason?, t.Fits reason? → t'.Fits reason?) :
    Attended { w with hub, tasks := w.tasks.set n t' } := by
  have hn : w.Attends n := h.busy n t ht hbusy
  have hwork : Attended { w with hub } :=
    attended_unheard h hsame hlistener fun ho => hopening ▸ ho
  refine { hwork with
    numbered := by
      rw [List.length_set]
      exact hwork.numbered
    busy := fun k u hu hidle => ?_
    fits := fun k u hu => ?_ }
  · rw [getElem?_set_task ht] at hu
    split at hu
    · next hk => exact hk ▸ hwork.busy n t ht hbusy
    · exact hwork.busy k u hu hidle
  · rw [getElem?_set_task ht] at hu
    split at hu
    · next hk =>
      cases hu
      subst hk
      exact hfits _ (hwork.fits n t ht)
    · exact hwork.fits k u hu

/-- The task of a channel performs the next effect. -/
theorem attended_carry {w : HubTasks} (h : Attended w) {n : Nat} {t : ChannelTask}
    (ht : w.tasks[n]? = some t) :
    Attended (w.carry n t).1 ∧ Seen w (w.carry n t).1 (w.carry n t).2 := by
  obtain ⟨due, calling, given⟩ := t
  cases calling with
  | some e => exact ⟨h, .refl w⟩
  | none =>
    cases due with
    | nil => exact ⟨h, .refl w⟩
    | cons effect rest =>
      obtain ⟨hsame, hlistener, hopening⟩ := HubListener.deliver_keeps w.hub effect
      have hbusy : ChannelTask.isIdle ⟨effect :: rest, none, given⟩ = false := rfl
      have hgoes : ∀ reason?, ChannelTask.Fits ⟨effect :: rest, none, given⟩ reason? →
          ChannelTask.Fits ⟨rest, w.hub.called? effect, effect.given?.or given⟩ reason? :=
        fun _ hfits => hfits.carry HubListener.called?_eq_none_of_given
      refine ⟨attended_work h ht hbusy hsame hlistener hopening hgoes, ?_⟩
      have hn : w.Attends n := h.busy n _ ht hbusy
      have hnone : ∀ k, w.calling? k = none := by
        intro k
        cases hk : w.tasks[k]? with
        | none => simp [calling?, hk]
        | some u =>
          cases hidle : u.isIdle with
          | true => simp [calling?, hk, (ChannelTask.isIdle_iff.1 hidle).2]
          | false =>
            obtain rfl := h.unique hn (h.busy k u hk hidle)
            obtain rfl := Option.some.inj (ht.symm.trans hk)
            simp [calling?, hk]
      have hcalling : ∀ k, (w.carry n ⟨effect :: rest, none, given⟩).1.calling? k =
          if n = k then w.hub.called? effect else none := by
        intro k
        simp only [carry, calling?, getElem?_set_task ht]
        split
        · rfl
        · exact hnone k
      cases hcalled : w.hub.called? effect with
      | none =>
        have hmarks : (w.carry n ⟨effect :: rest, none, given⟩).2 = [] := by
          simp [carry, hcalled]
        rw [hmarks]
        refine .of_eq hlistener (fun k => ?_) hsame.length.ge
        rw [hcalling, hcalled, hnone k, ite_self]
      | some e =>
        have hmarks : (w.carry n ⟨effect :: rest, none, given⟩).2 = [.called n e] := by
          simp [carry, hcalled]
        rw [hmarks]
        rw [hcalled] at hcalling
        exact .called hn hnone hcalling hsame hlistener

/-- The handler that the task of a channel has called returns. -/
theorem attended_finish {w : HubTasks} (h : Attended w) {n : Nat} {t : ChannelTask}
    (ht : w.tasks[n]? = some t) :
    Attended (w.finish n t).1 ∧ Seen w (w.finish n t).1 (w.finish n t).2 := by
  unfold finish
  split
  · next hcalling =>
    have hbusy : t.isIdle = false := by
      obtain ⟨e, he⟩ := Option.isSome_iff_exists.1 hcalling
      simp [ChannelTask.isIdle, he]
    refine ⟨attended_work h ht hbusy (.refl w.hub) rfl rfl fun _ hfits => hfits.finish,
      .returned (fun k => ?_) rfl⟩
    simp only [calling?, getElem?_set_task ht]
    split <;> rfl
  · exact ⟨h, .refl w⟩

/-- **Every step leaves only the task of the channel that is attended to at work**, and is
seen in one of these ways. -/
theorem attended_step {w : HubTasks} (h : Attended w) (g : Glance) (e : Event) :
    Attended (w.step g e).1 ∧ Seen w (w.step g e).1 (w.step g e).2 := by
  cases e with
  | spawned =>
    simp only [step]
    split
    · next hspawns =>
      simp only [Bool.and_eq_true, Option.isNone_iff_eq_none] at hspawns
      obtain ⟨pending, hopening⟩ := HubListener.hasOpened_iff.1 hspawns.2
      refine ⟨attended_spawn h hspawns.1 hspawns.2, .of_eq ?_ (fun n => ?_) ?_⟩
      · simp [spawn, HubListener.transport, hopening, HubListener.listener]
      · simp only [calling?, spawn]
        cases ht : (w.tasks ++ [ChannelTask.fresh])[n]? with
        | none =>
          have hnone := List.getElem?_eq_none_iff.1 ht
          rw [List.getElem?_eq_none (by simp at hnone; omega)]
        | some t =>
          rcases task_of_spawn ht with hold | ⟨rfl, rfl⟩
          · rw [hold]
          · simp [ChannelTask.fresh]
      · simp [spawn, HubListener.transport, hopening]
    · exact ⟨h, .refl w⟩
  | happened e =>
    cases he : w.admits e with
    | true =>
      by_cases hopened : e = .opened
      · subst hopened
        exact attended_arrive h g
      · have hstep : w.step g (.happened e) = w.happen g e := by
          cases e <;> first | exact absurd rfl hopened | simp [step, he]
        rw [hstep]
        exact attended_happen h g he fun h => absurd h hopened
    | false =>
      have hstep : w.step g (.happened e) = (w, []) := by
        cases e <;> first | cases he | simp [step, he]
      rw [hstep]
      exact ⟨h, .refl w⟩
  | carried n =>
    cases ht : w.tasks[n]? with
    | none =>
      have hstep : w.step g (.carried n) = (w, []) := by simp [step, ht]
      rw [hstep]
      exact ⟨h, .refl w⟩
    | some t =>
      have hstep : w.step g (.carried n) = w.carry n t := by simp [step, ht]
      rw [hstep]
      exact attended_carry h ht
  | returned n =>
    cases ht : w.tasks[n]? with
    | none =>
      have hstep : w.step g (.returned n) = (w, []) := by simp [step, ht]
      rw [hstep]
      exact ⟨h, .refl w⟩
    | some t =>
      have hstep : w.step g (.returned n) = w.finish n t := by simp [step, ht]
      rw [hstep]
      exact attended_finish h ht

end Appliance.HubTasks
