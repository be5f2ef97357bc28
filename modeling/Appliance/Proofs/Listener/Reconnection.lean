import Appliance.Proofs.Listener.Enactment

/-!
# How a listener reconnects

* `lone_listener_keeps_schedule` — **a listener that is started once and not stopped follows
  the script of its attempts and channels, retries on schedule, and can be brought any
  script.**
-/

namespace Appliance

open Listener

/-- **A listener that is started once and not stopped reconnects on schedule.**  Whatever comes
of its attempts and channels forms a script. The signs of the run, with the attempt that it
has still to begin, are those that the script leads one to expect, the callback is told the
states among them, and the retries among them obey the schedule of the back-off. A channel is
shown once for every attempt that opened one; a retry is shown once for every failure that
may pass and for every channel that is lost but not for good, and each makes one attempt; and
nothing is shown after the end. For every script there is a run that plays it to its end. -/
theorem lone_listener_keeps_schedule (callback : Callback) (b : Backoff) (ownsSession : Bool)
    (ticket : Nat) :
    (∀ g inputs, (∀ x ∈ inputs, x.2.isCall = false) →
      let l := fresh b ownsSession
      let started := (g, Input.call ticket .start) :: inputs
      let script := l.played ticket g inputs
      let pending := (l.run started).1.outstanding
      let seen := signs (l.run started).2 ++ pending
      isScript false script = true ∧
        seen = story b script ∧
        ((Observed.fresh callback b ownsSession).run started).told ++
          pending.filterMap Sign.state? = seen.filterMap Sign.state? ∧
        Schedule b seen ∧
        seen.count (.shows .connected) = script.count .connected ∧
        seen.count (.shows .retryScheduled) = script.countP Verdict.retries ∧
        seen.count (.shows .connecting) = script.countP Verdict.retries + 1 ∧
        seen.count .attempts = script.countP Verdict.retries + 1 ∧
        ∀ before after, seen = before ++ .shows .permanentlyFailed :: after → after = []) ∧
      ∀ script, isScript false script = true →
        ∃ g inputs, (∀ x ∈ inputs, x.2.isCall = false) ∧
          (fresh b ownsSession).played ticket g inputs = script ∧
          ((fresh b ownsSession).run ((g, Input.call ticket .start) :: inputs)).1.outstanding =
            [] := by
  refine ⟨?_, ?_⟩
  · intro g inputs hcalls l started script pending seen
    obtain ⟨⟨st, hgoes, halone⟩, hstart⟩ := follows_start b ownsSession ticket g
    obtain ⟨hplays, hrun⟩ := follows_run halone hcalls
    have hscript : isScript false script = true := hgoes.plays hplays
    have hseen : seen = story b script := by
      have hsigns : seen = signs (l.step g (.call ticket .start)).2 ++
          (signs ((l.step g (.call ticket .start)).1.run inputs).2 ++
            ((l.step g (.call ticket .start)).1.run inputs).1.outstanding) := by
        simp [seen, pending, started, run]
      rw [hsigns, hrun, ← List.append_assoc, hstart, List.append_assoc, ← expected_append]
      rfl
    have htold : ((Observed.fresh callback b ownsSession).run started).told =
        shown (l.run started).2 := Observed.told_run started _
    obtain ⟨hconnected, -, hretry, hconnecting, hattempts⟩ := count_story b script
    refine ⟨hscript, hseen, ?_, ?_, ?_, ?_, ?_, ?_, ?_⟩
    · rw [htold, List.filterMap_append, filterMap_state?_signs]
    · exact hseen ▸ schedule_story b script
    · rw [hseen, hconnected]
    · rw [hseen, hretry]
    · rw [hseen, hconnecting]
    · rw [hseen, hattempts]
    · intro before after hsplit
      exact story_ends hscript (hseen.symm.trans hsplit)
  · intro script hscript
    let g : Glance := ⟨3600, some ⟨"token", 3600 * Duration.nanosPerSecond⟩⟩
    obtain ⟨hcalls, hplayed, hrest⟩ :=
      played_enactment (g := g) (by decide) rfl b ownsSession ticket hscript
    refine ⟨g, enactment g script, hcalls, hplayed, ?_⟩
    rw [run, andThen_fst]
    exact hrest

/-- A channel is lost, the next attempt fails, and the one after it opens a channel. The
callback panics at every state that it is told. -/
theorem lone_listener_keeps_schedule_dropped :
    let b : Backoff := .exponential (Duration.ofSeconds 1) (Duration.ofSeconds 30)
    let g : Glance := ⟨3600, some ⟨"token", 3600 * Duration.nanosPerSecond⟩⟩
    let script : List Verdict :=
      [.connected, .lost (.transportError "reset"), .failed (.transport (.timeout 1)), .connected]
    let started := (g, Input.call 0 .start) :: enactment g script
    (∀ x ∈ enactment g script, x.2.isCall = false) ∧
      ((Observed.fresh (fun _ _ => true) b false).run started).told =
        [.connecting, .connected, .retryScheduled, .connecting, .retryScheduled, .connecting,
          .connected] ∧
      signs ((fresh b false).run started).2 =
        [.shows .connecting, .attempts, .shows .connected,
          .shows .retryScheduled, .waits (Duration.ofSeconds 1), .shows .connecting, .attempts,
          .shows .retryScheduled, .waits (Duration.ofSeconds 2), .shows .connecting, .attempts,
          .shows .connected] := by
  intro b g script started
  obtain ⟨hcalls, hplayed, hrest⟩ := played_enactment (g := g) (by decide) rfl b
    false 0 (show isScript false script = true by decide)
  obtain ⟨-, hseen, htold, -⟩ :=
    (lone_listener_keeps_schedule (fun _ _ => true) b false 0).1 g (enactment g script) hcalls
  have hpending : ((fresh b false).run started).1.outstanding = [] := by
    rw [run, andThen_fst]
    exact hrest
  rw [hpending, hplayed, List.append_nil] at hseen
  rw [hpending, List.filterMap_nil, List.append_nil, List.append_nil] at htold
  refine ⟨hcalls, ?_, ?_⟩
  · rw [htold, hseen]
    decide
  · rw [hseen]
    decide

end Appliance
