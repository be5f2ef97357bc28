import Appliance.Listener.Callback
import Appliance.Proofs.Listener.Walk

/-!
# What a state callback is told

A callback that is set before the first call is told every state that the listener
shows, and only those; its panics change nothing.

* `Observed.listener_run`, `Observed.told_run` — the listener runs as if it had no
  callback, and the callback is told what that run shows.
* `told_states_follow_graph` — **the states told form a path in the graph of states that
  begins at `disconnected`, and the last of them is the state of the listener.**
-/

namespace Appliance

namespace Observed

@[simp] theorem told_tell (o : Observed) (s : ListenerState) :
    (o.tell s).told = o.told ++ [s] := rfl

/-- Performing effects leaves the listener alone and tells the callback the states among
them, whether it panics or not. -/
theorem foldl_act (effects : List Listener.Effect) (o : Observed) :
    (effects.foldl act o).listener = o.listener ∧
      (effects.foldl act o).told = o.told ++ Listener.shown effects := by
  induction effects generalizing o with
  | nil => simp
  | cons effect rest ih =>
    rw [List.foldl_cons]
    obtain ⟨hl, ht⟩ := ih (o.act effect)
    cases effect with
    | «show» s =>
      refine ⟨hl, ?_⟩
      rw [ht]
      simp [act]
    | _ => exact ⟨hl, ht⟩

theorem listener_step (o : Observed) (g : Listener.Glance) (i : Listener.Input) :
    (o.step g i).listener = (o.listener.step g i).1 :=
  (foldl_act _ _).1

theorem told_step (o : Observed) (g : Listener.Glance) (i : Listener.Input) :
    (o.step g i).told = o.told ++ Listener.shown (o.listener.step g i).2 :=
  (foldl_act _ _).2

/-- The listener runs as if it had no callback. -/
theorem listener_run (inputs : List (Listener.Glance × Listener.Input)) (o : Observed) :
    (o.run inputs).listener = (o.listener.run inputs).1 := by
  induction inputs generalizing o with
  | nil => rfl
  | cons input rest ih =>
    obtain ⟨g, i⟩ := input
    rw [run, ih, listener_step]
    rfl

/-- The callback is told what the run shows. -/
theorem told_run (inputs : List (Listener.Glance × Listener.Input)) (o : Observed) :
    (o.run inputs).told = o.told ++ Listener.shown (o.listener.run inputs).2 := by
  induction inputs generalizing o with
  | nil => simp [run, Listener.run]
  | cons input rest ih =>
    obtain ⟨g, i⟩ := input
    rw [run, ih, told_step, listener_step, List.append_assoc, ← Listener.shown_append]
    rfl

end Observed

/-- **A callback is told a path in the graph of states.**  Whatever the session, the
transport and the callers do, and whether or not the callback panics: each state told
follows the one before, beginning at `disconnected`; no two of them in a row are equal;
none comes after `permanentlyFailed`; and the last of them is the state of the listener. -/
theorem told_states_follow_graph (callback : Callback) (backoff : Backoff) (ownsSession : Bool)
    (inputs : List (Listener.Glance × Listener.Input)) :
    let o := (Observed.fresh callback backoff ownsSession).run inputs
    let path := ListenerState.disconnected :: o.told
    List.IsChain (fun a b => b ∈ a.successors) path ∧
      List.IsChain (fun a b => a ≠ b) path ∧
      (∀ before after, path = before ++ .permanentlyFailed :: after → after = []) ∧
      o.listener.state = path.getLast (List.cons_ne_nil _ _) := by
  intro o path
  have hwalk : Walk .disconnected o.told o.listener.state := by
    have hw := (Listener.rel_run Listener.composes_walks Listener.walks_step inputs _
      (Listener.coherent_fresh backoff ownsSession)).2
    have hlistener : o.listener = ((Listener.fresh backoff ownsSession).run inputs).1 :=
      Observed.listener_run inputs _
    have htold : o.told = [] ++ Listener.shown ((Listener.fresh backoff ownsSession).run inputs).2 :=
      Observed.told_run inputs _
    rw [hlistener, htold, List.nil_append]
    exact hw
  refine ⟨hwalk.isChain, ?_, ?_, hwalk.getLast_eq.symm⟩
  · refine hwalk.isChain.imp fun a b hab => ?_
    rintro rfl
    exact ListenerState.not_mem_successors_self a hab
  · intro before after hpath
    -- the walk begins before the first state told, so the cut cannot be at its very beginning
    cases before with
    | nil => exact absurd (List.cons.inj hpath).1 (by simp)
    | cons first before =>
      have htold : o.told = before ++ .permanentlyFailed :: after := (List.cons.inj hpath).2
      rw [htold] at hwalk
      exact hwalk.of_append.eq_nil_of_permanentlyFailed

end Appliance
