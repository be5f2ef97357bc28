import Appliance.Proofs.Histories
import Appliance.Proofs.Hub.Attendance

/-!
# No events between connections

Events are dispatched by the tasks of channels while the listener shows its states, and
neither waits for the other. This file shows that they are ordered all the same: between one
connection and the next no handler is called and none runs.

* `UnderWay`  — a call of a handler that has not returned after some marks.
* `stateAfter`, `IsGap` — the state shown after some marks, and the states between
  connections.
* `Allowed`   — what may be seen next.
* `Chronicle` — the marks of a run, each of them allowed, tell what the run leads to.
* **`no_events_between_connections`** — no handler runs between two connections, each call
  has returned when the next opening begins, and the events of two connections never mix.
-/

namespace Appliance.HubTasks

open Listener (Glance LogLine)

/-! ## What marks tell -/

/-- `UnderWay marks n e`: the task of the channel `n` has called a handler with the event `e`,
and the handler has not returned. -/
def UnderWay (marks : List Mark) (n : Nat) (e : Appliance.Event) : Prop :=
  ∃ before after, marks = before ++ .called n e :: after ∧ .returned n ∉ after

/-- The lines that the listener has told. -/
def toldIn (marks : List Mark) : List LogLine :=
  marks.filterMap fun
    | .told line => some line
    | _ => none

/-- The state that the listener shows after some marks. -/
def stateAfter (marks : List Mark) : ListenerState :=
  Listener.shownAfter .disconnected (toldIn marks)

/-- `IsGap state`: the state is shown between two connections, or after the last one. -/
def IsGap (state : ListenerState) : Prop :=
  state = .retryScheduled ∨ state = .disconnected ∨ state = .permanentlyFailed

theorem not_underWay_nil (n : Nat) (e : Appliance.Event) : ¬UnderWay [] n e := by
  rintro ⟨before, after, h, -⟩
  simp at h

/-- A call is under way after one more mark if it is the one that the mark tells, or was
under way and the mark does not tell its return. -/
theorem underWay_snoc {marks : List Mark} {m : Mark} {n : Nat} {e : Appliance.Event} :
    UnderWay (marks ++ [m]) n e ↔ m = .called n e ∨ UnderWay marks n e ∧ m ≠ .returned n := by
  constructor
  · rintro ⟨before, after, h, hafter⟩
    rcases split_snoc h with ⟨-, hlast, -⟩ | ⟨after', rfl, hmarks⟩
    · exact .inl hlast
    · refine .inr ⟨⟨before, after', hmarks, fun hm => hafter ?_⟩, fun hm => hafter ?_⟩
      · simp [hm]
      · simp [hm]
  · rintro (rfl | ⟨⟨before, after, rfl, hafter⟩, hne⟩)
    · exact ⟨marks, [], rfl, by simp⟩
    · refine ⟨before, after ++ [m], by simp, fun hm => ?_⟩
      rcases List.mem_append.1 hm with hm | hm
      · exact hafter hm
      · exact hne (List.mem_singleton.1 hm).symm

/-- Lines of the log neither begin calls nor end them. -/
theorem underWay_told {marks : List Mark} {lines : List LogLine} {n : Nat} {e : Appliance.Event} :
    UnderWay (marks ++ lines.map .told) n e ↔ UnderWay marks n e := by
  induction lines using List.reverseRecOn with
  | nil => simp
  | append_singleton lines line ih =>
    rw [List.map_append, ← List.append_assoc]
    show UnderWay ((marks ++ lines.map .told) ++ [.told line]) n e ↔ _
    rw [underWay_snoc, ih]
    simp

theorem toldIn_append (marks marks' : List Mark) :
    toldIn (marks ++ marks') = toldIn marks ++ toldIn marks' := List.filterMap_append

theorem toldIn_told (lines : List LogLine) : toldIn (lines.map .told) = lines := by
  simp [toldIn, List.filterMap_map]

theorem stateAfter_append (marks marks' : List Mark) :
    stateAfter (marks ++ marks') = Listener.shownAfter (stateAfter marks) (toldIn marks') := by
  rw [stateAfter, toldIn_append, Listener.shownAfter_append]
  rfl

/-- Only a line that is not quiet leads into a gap. -/
theorem isGap_told {marks : List Mark} {line : LogLine} (hquiet : line.Quiet)
    (h : IsGap (stateAfter (marks ++ [.told line]))) : IsGap (stateAfter marks) := by
  rw [stateAfter_append] at h
  cases line with
  | did effect =>
    cases effect with
    | «show» state =>
      have hstate : state = .connected := hquiet
      subst hstate
      rcases h with h | h | h <;> cases h
    | _ => exact h
  | _ => exact h

/-! ## What may be seen next -/

/-- `Allowed before m`: the mark `m` may be seen after `before`. The listener shows a state
other than `connected`, and asks for a channel, while no handler runs. A handler is called
while no other one runs and no gap is shown, and by no channel that is older than the last
one that has called any. -/
def Allowed (before : List Mark) : Mark → Prop
  | .told line => ¬line.Quiet → ∀ n e, ¬UnderWay before n e
  | .called n _ => (∀ m e, ¬UnderWay before m e) ∧ ¬IsGap (stateAfter before) ∧
      ∀ m e, .called m e ∈ before → m ≤ n
  | .returned _ => True

/-- `Orderly marks`: each of the marks may be seen after those before it. -/
def Orderly (marks : List Mark) : Prop :=
  ∀ before m after, marks = before ++ m :: after → Allowed before m

theorem orderly_snoc {marks : List Mark} {m : Mark} (h : Orderly marks) (hm : Allowed marks m) :
    Orderly (marks ++ [m]) := by
  intro before x after heq
  rcases split_snoc heq with ⟨rfl, rfl, -⟩ | ⟨after', -, hmarks⟩
  · exact hm
  · exact h before x after' hmarks

theorem orderly_told {marks : List Mark} (h : Orderly marks) {lines : List LogLine}
    (hquiet : ∀ n e, UnderWay marks n e → ∀ line ∈ lines, line.Quiet) :
    Orderly (marks ++ lines.map .told) := by
  induction lines using List.reverseRecOn with
  | nil => simpa using h
  | append_singleton lines line ih =>
    rw [List.map_append, ← List.append_assoc]
    refine orderly_snoc (ih fun n e hn x hx => hquiet n e hn x (List.mem_append_left _ hx)) ?_
    intro hline n e hn
    exact hline (hquiet n e (underWay_told.1 hn) line (by simp))

/-- In a gap no handler runs. -/
theorem not_underWay_of_isGap {marks : List Mark} (h : Orderly marks)
    (hgap : IsGap (stateAfter marks)) (n : Nat) (e : Appliance.Event) : ¬UnderWay marks n e := by
  induction marks using List.reverseRecOn with
  | nil => exact not_underWay_nil n e
  | append_singleton marks m ih =>
    have hm : Allowed marks m := h marks m [] rfl
    have hbefore : Orderly marks := fun before x after heq =>
      h before x (after ++ [m]) (by simp [heq])
    rw [underWay_snoc]
    rintro (rfl | ⟨hn, hne⟩)
    · -- a gap is shown before the call if it is shown after it
      rw [stateAfter_append] at hgap
      exact hm.2.1 hgap
    · cases m with
      | told line =>
        by_cases hquiet : line.Quiet
        · exact ih hbefore (isGap_told hquiet hgap) hn
        · exact hm hquiet n e hn
      | called k e' => exact hm.1 n e hn
      | returned k =>
        rw [stateAfter_append] at hgap
        exact ih hbefore hgap hn

/-! ## Runs -/

/-- `Chronicle w marks`: the marks lead to `w`, and each of them might be seen. -/
structure Chronicle (w : HubTasks) (marks : List Mark) : Prop where
  attended : Attended w
  orderly : Orderly marks
  state : w.hub.listener.state = stateAfter marks
  underWay : ∀ n e, UnderWay marks n e → w.calling? n = some e
  numbers : ∀ n e, .called n e ∈ marks → n < w.hub.lines.length

theorem chronicle_fresh (options : Listener.Options) (ownsSession : Bool) (callback : Callback)
    (subscriptions : Subscriptions Handler) :
    Chronicle (fresh options ownsSession callback subscriptions) [] where
  attended := attended_fresh options ownsSession callback subscriptions
  orderly before m after h := by simp at h
  state := rfl
  underWay n e h := absurd h (not_underWay_nil n e)
  numbers := by simp

/-- What is seen may be seen. -/
theorem chronicle_seen {w w' : HubTasks} {marks marks' : List Mark} (h : Chronicle w marks)
    (hattended : Attended w') (hseen : Seen w w' marks') : Chronicle w' (marks ++ marks') := by
  cases hseen with
  | @told lines htells =>
    refine {
      attended := hattended
      orderly := orderly_told h.orderly fun n e hn => ?_
      state := ?_
      underWay := fun n e hn => ?_
      numbers := fun n e hm => ?_ }
    · exact htells.quiet n (by rw [h.underWay n e hn]; rfl)
    · rw [stateAfter_append, toldIn_told, htells.state, h.state]
    · rw [htells.calling]
      exact h.underWay n e (underWay_told.1 hn)
    · have hold : .called n e ∈ marks := by simpa using hm
      exact Nat.lt_of_lt_of_le (h.numbers n e hold) htells.length
  | @called n e hn hnone hcalling hsame hlistener =>
    have hidle : ∀ m e', ¬UnderWay marks m e' := by
      intro m e' hm
      have hrunning := h.underWay m e' hm
      rw [hnone m] at hrunning
      cases hrunning
    have hlast := h.attended.last n hn
    refine {
      attended := hattended
      orderly := orderly_snoc h.orderly ⟨hidle, ?_, fun m e' hm => ?_⟩
      state := ?_
      underWay := fun m e' hm => ?_
      numbers := fun m e' hm => ?_ }
    · rw [← h.state]
      rcases h.attended.state_of_attends hn with hst | hst <;> rw [hst] <;>
        rintro (h' | h' | h') <;> cases h'
    · have hlt := h.numbers m e' hm
      omega
    · rw [stateAfter_append, hlistener, h.state]
      rfl
    · rcases underWay_snoc.1 hm with heq | ⟨hm, -⟩
      · cases heq
        rw [hcalling, if_pos rfl]
      · exact absurd hm (hidle m e')
    · rw [hsame.length]
      rcases List.mem_append.1 hm with hm | hm
      · exact h.numbers m e' hm
      · cases List.mem_singleton.1 hm
        omega
  | @returned n hcalling hhub =>
    refine {
      attended := hattended
      orderly := orderly_snoc h.orderly trivial
      state := ?_
      underWay := fun m e hm => ?_
      numbers := fun m e hm => ?_ }
    · rw [stateAfter_append, hhub, h.state]
      rfl
    · rcases underWay_snoc.1 hm with heq | ⟨hm, hne⟩
      · cases heq
      · have hnm : n ≠ m := fun heq => hne (heq ▸ rfl)
        rw [hcalling, if_neg hnm]
        exact h.underWay m e hm
    · rw [hhub]
      exact h.numbers m e (by simpa using hm)

theorem chronicle_run {w : HubTasks} {marks : List Mark} (h : Chronicle w marks)
    (events : List (Glance × Event)) :
    Chronicle (w.run events).1 (marks ++ (w.run events).2) := by
  induction events generalizing w marks with
  | nil => simpa [run] using h
  | cons x rest ih =>
    obtain ⟨g, e⟩ := x
    obtain ⟨hattended, hseen⟩ := attended_step h.attended g e
    have hrest := ih (chronicle_seen h hattended hseen)
    rw [List.append_assoc] at hrest
    exact hrest

/-- **No events between connections.**  Whatever the tasks of the channels, the listener,
its callers, the hub and the clock do, and in whatever order: while the listener shows that
it is disconnected, waits to try again or has failed for good, no handler runs and none is
called; when a channel is asked for, every handler called before has returned; of two calls
the later one is made when the earlier one has returned, and by no older channel; and the
listener shows what its log tells. -/
theorem no_events_between_connections (options : Listener.Options) (ownsSession : Bool)
    (callback : Callback) (subscriptions : Subscriptions Handler)
    (events : List (Glance × Event)) :
    let run := (fresh options ownsSession callback subscriptions).run events
    (∀ before after, run.2 = before ++ after → IsGap (stateAfter before) →
      (∀ n e, ¬UnderWay before n e) ∧ ∀ n e rest, after ≠ .called n e :: rest) ∧
    (∀ before token after, run.2 = before ++ .told (.did (.openChannel token)) :: after →
      ∀ n e, ¬UnderWay before n e) ∧
    (∀ before n e between n' e' after,
      run.2 = before ++ .called n e :: (between ++ .called n' e' :: after) →
        n ≤ n' ∧ .returned n ∈ between) ∧
    run.1.hub.listener.state = stateAfter run.2 := by
  intro run
  have h : Chronicle run.1 run.2 :=
    chronicle_run (chronicle_fresh options ownsSession callback subscriptions) events
  have horderly : ∀ {before after}, run.2 = before ++ after → Orderly before := by
    intro before after heq b m a hb
    exact h.orderly b m (a ++ after) (by rw [heq, hb]; simp)
  refine ⟨fun before after heq hgap => ⟨not_underWay_of_isGap (horderly heq) hgap, ?_⟩, ?_, ?_,
    h.state⟩
  · rintro n e rest rfl
    exact (h.orderly before _ rest heq).2.1 hgap
  · intro before token after heq
    exact h.orderly before _ after heq id
  · intro before n e between n' e' after heq
    obtain ⟨hnone, -, hnumber⟩ := h.orderly (before ++ .called n e :: between) (.called n' e') after
      (by rw [heq]; simp)
    refine ⟨hnumber n e (by simp), ?_⟩
    by_contra hreturned
    exact hnone n e ⟨before, between, rfl, hreturned⟩

end Appliance.HubTasks
