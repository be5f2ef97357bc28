import Appliance.Proofs.Listener.Quiescence

/-!
# Listeners at rest and their sessions

The session of a listener is disposed of by the listener when it owns it, and by nobody
else but whom its user lets; a session that was copied for a listener is none of the
listener's business.

* `log_run`          — whatever happens to the sessions, the listener runs as it would alone.
* `disposed_run_iff` — who has disposed of the listener's session.
* `untouched_run`    — a session that is not the listener's is left alone.
* `stopped_or_disposed_listener_rests` — **a listener that was stopped or disposed of rests,
  with the state and the session that belong to it.**
-/

namespace Appliance

/-- Whether an effect disposes of the session. -/
def Listener.Effect.isDisposal : Listener.Effect → Bool
  | .disposeSession => true
  | _ => false

theorem Listener.disposalsIn_eq_countP (lines : List Listener.LogLine) :
    Listener.disposalsIn lines =
      (lines.filterMap Listener.LogLine.effect?).countP Listener.Effect.isDisposal := by
  induction lines with
  | nil => rfl
  | cons line rest ih =>
    rw [Listener.disposalsIn_cons, ih]
    cases line with
    | did effect =>
      simp only [List.filterMap_cons, Listener.LogLine.effect?, List.countP_cons]
      cases effect <;> rfl
    | _ => rfl

namespace Tenure

open Listener (Effect Input LogLine Ownership shownAfter disposalsIn servedAfter)

/-! ## Sessions -/

@[simp] theorem disposed_apply (part : RefreshPart) (s : Session) :
    (part.apply s).disposed = s.disposed := by
  cases part with
  | scope c answer => cases answer <;> rfl
  | token answer =>
    cases answer with
    | error f => rfl
    | ok token =>
      simp only [RefreshPart.apply, Session.takeToken]
      split <;> rfl

@[simp] theorem disposed_dispose (s : Session) : s.dispose.disposed = true := by
  simp only [Session.dispose, Session.mark, Session.wipe]
  split <;> simp_all

/-- `Changes t t' ended kept`: the sessions go on, those of `ended` and no others are disposed
of on the way, and those of `kept` are left alone. -/
structure Changes (t t' : Tenure) (ended kept : Nat → Prop) : Prop where
  held : t'.held = t.held
  sessions : ∀ k s, t.sessions[k]? = some s → ∃ s', t'.sessions[k]? = some s' ∧
    (s'.disposed = true ↔ s.disposed = true ∨ ended k) ∧ (kept k → s' = s)

theorem Changes.refl (t : Tenure) {ended kept : Nat → Prop} (h : ∀ k, ¬ ended k) :
    Changes t t ended kept where
  held := rfl
  sessions _ s hs := ⟨s, hs, by simp [h], fun _ => rfl⟩

theorem Changes.trans {t t' t'' : Tenure} {ended ended' kept kept' : Nat → Prop}
    (h : Changes t t' ended kept) (h' : Changes t' t'' ended' kept') :
    Changes t t'' (fun k => ended k ∨ ended' k) (fun k => kept k ∧ kept' k) where
  held := h'.held.trans h.held
  sessions k s hs := by
    obtain ⟨s', hs', hd, hk⟩ := h.sessions k s hs
    obtain ⟨s'', hs'', hd', hk'⟩ := h'.sessions k s' hs'
    exact ⟨s'', hs'', by rw [hd', hd, or_assoc], fun hkept => (hk' hkept.2).trans (hk hkept.1)⟩

theorem Changes.mono {t t' : Tenure} {ended ended' kept kept' : Nat → Prop}
    (h : Changes t t' ended kept) (he : ∀ k, ended k ↔ ended' k) (hk : ∀ k, kept' k → kept k) :
    Changes t t' ended' kept' where
  held := h.held
  sessions k s hs := by
    obtain ⟨s', hs', hd, hkept⟩ := h.sessions k s hs
    exact ⟨s', hs', by rw [hd, he], fun h => hkept (hk k h)⟩

theorem changes_change (t : Tenure) (k : Nat) {f : Session → Session} (ends : Prop)
    (hf : ∀ s, (f s).disposed = true ↔ s.disposed = true ∨ ends) :
    Changes t (t.change k f) (fun j => j = k ∧ ends) (fun j => j ≠ k) where
  held := rfl
  sessions j s hs := by
    simp only [change, List.getElem?_modify, hs]
    by_cases hj : k = j
    · subst hj
      exact ⟨f s, by simp, by simp [hf], fun h => absurd rfl h⟩
    · exact ⟨s, by simp [hj], by simp [Ne.symm hj], fun _ => rfl⟩

/-- The effects of a listener concern its session only when they end that. -/
theorem changes_act (effects : List Effect) (t : Tenure) :
    Changes t (effects.foldl act t)
      (fun k => k = t.held ∧ 0 < effects.countP Effect.isDisposal) (fun k => k ≠ t.held) := by
  induction effects generalizing t with
  | nil => exact .refl t (by simp)
  | cons effect rest ih =>
    cases effect with
    | disposeSession =>
      have hfirst := changes_change t t.held (f := Session.dispose) True (by simp)
      refine (hfirst.trans (ih _)).mono (fun k => ?_) fun k hk => ⟨hk, hk⟩
      rw [List.countP_cons_of_pos rfl]
      exact ⟨fun h => h.elim (fun h => ⟨h.1, Nat.succ_pos _⟩) fun h => ⟨h.1, Nat.succ_pos _⟩,
        fun h => .inl ⟨h.1, trivial⟩⟩
    | _ => exact ih t

/-! ## Things that happen -/

/-- Whether someone other than the listener disposes of a session. -/
def Event.disposes (k : Nat) : Event → Prop
  | .disposingElsewhere j => j = k
  | _ => False

/-- Whether someone other than the listener changes a session. -/
def Event.touches (k : Nat) : Event → Prop
  | .refreshingElsewhere j _ => j = k
  | .disposingElsewhere j => j = k
  | _ => False

/-- The listener disposes of its own session only, and others of those they dispose of. -/
theorem changes_step (t : Tenure) (e : Event) :
    Changes t (t.step e).1 (fun k => k = t.held ∧ 0 < disposalsIn (t.step e).2 ∨ e.disposes k)
      (fun k => k ≠ t.held ∧ ¬ e.touches k) := by
  cases e with
  | told now input =>
    have hcount : disposalsIn (t.step (.told now input)).2 =
        (t.listener.step (t.glance now) input).2.countP Effect.isDisposal := by
      rw [Listener.disposalsIn_eq_countP]
      exact congrArg _ (Listener.effects_stepLog _ _ _)
    have h := changes_act (t.listener.step (t.glance now) input).2
      { t with listener := (t.listener.step (t.glance now) input).1 }
    refine Changes.mono ⟨h.held, h.sessions⟩ (fun k => ?_) fun k hk => hk.1
    rw [hcount]
    simp [Event.disposes]
  | refreshing part =>
    simp only [step]
    split
    · refine (changes_change t t.held (f := part.apply) False (by simp)).mono (fun k => ?_)
        fun k hk => hk.1
      simp [disposalsIn, Event.disposes]
    · exact .refl t (by simp [disposalsIn, Event.disposes])
  | refreshingElsewhere j part =>
    refine (changes_change t j (f := part.apply) False (by simp)).mono (fun k => ?_)
      fun k hk => Ne.symm hk.2
    simp [step, disposalsIn, Event.disposes]
  | disposingElsewhere j =>
    refine (changes_change t j (f := Session.dispose) True (by simp)).mono (fun k => ?_)
      fun k hk => Ne.symm hk.2
    simp [step, disposalsIn, Event.disposes, eq_comm]

theorem changes_run (events : List Event) (t : Tenure) :
    Changes t (t.run events).1
      (fun k => k = t.held ∧ 0 < disposalsIn (t.run events).2 ∨ ∃ e ∈ events, e.disposes k)
      (fun k => k ≠ t.held ∧ ∀ e ∈ events, ¬ e.touches k) := by
  induction events generalizing t with
  | nil => exact .refl t (by simp [run, disposalsIn])
  | cons e rest ih =>
    have hstep := changes_step t e
    have hrest := ih (t.step e).1
    rw [hstep.held] at hrest
    refine (hstep.trans hrest).mono (fun k => ?_) fun k hk => ?_
    · have hadd : disposalsIn (t.run (e :: rest)).2 =
          disposalsIn (t.step e).2 + disposalsIn ((t.step e).1.run rest).2 :=
        Listener.disposalsIn_append _ _
      simp only [hadd, List.exists_mem_cons_iff]
      constructor
      · rintro ((⟨hk, h⟩ | h) | (⟨hk, h⟩ | h))
        · exact .inl ⟨hk, by omega⟩
        · exact .inr (.inl h)
        · exact .inl ⟨hk, by omega⟩
        · exact .inr (.inr h)
      · rintro (⟨hk, h⟩ | (h | h))
        · by_cases hfirst : 0 < disposalsIn (t.step e).2
          · exact .inl (.inl ⟨hk, hfirst⟩)
          · exact .inr (.inl ⟨hk, by omega⟩)
        · exact .inl (.inr h)
        · exact .inr (.inr h)
    · obtain ⟨he, hrest⟩ := List.forall_mem_cons.1 hk.2
      exact ⟨⟨hk.1, he⟩, hk.1, hrest⟩

/-- Whatever happens to the sessions, the listener runs as it would alone. -/
theorem log_run (events : List Event) (t : Tenure) :
    ∃ inputs, (t.run events).1.listener = (t.listener.run inputs).1 ∧
      (t.run events).2 = t.listener.log inputs := by
  have hact : ∀ (effects : List Effect) (t : Tenure),
      (effects.foldl act t).listener = t.listener := by
    intro effects
    induction effects with
    | nil => exact fun _ => rfl
    | cons effect rest ih =>
      intro t
      rw [List.foldl_cons, ih]
      cases effect <;> rfl
  induction events generalizing t with
  | nil => exact ⟨[], rfl, rfl⟩
  | cons e rest ih =>
    obtain ⟨inputs, hl, hlines⟩ := ih (t.step e).1
    cases e with
    | told now input =>
      have hstep : (t.step (.told now input)).1.listener =
          (t.listener.step (t.glance now) input).1 := hact _ _
      rw [hstep] at hl hlines
      refine ⟨(t.glance now, input) :: inputs, hl, ?_⟩
      exact congrArg (t.listener.stepLog (t.glance now) input ++ ·) hlines
    | refreshing part =>
      have hstep : (t.step (.refreshing part)).1.listener = t.listener := by
        simp only [step]
        split <;> rfl
      rw [hstep] at hl hlines
      exact ⟨inputs, hl, hlines⟩
    | refreshingElsewhere k part => exact ⟨inputs, hl, hlines⟩
    | disposingElsewhere k => exact ⟨inputs, hl, hlines⟩

/-! ## Listeners at rest -/

/-- What a listener begins with. -/
theorem begin_eq_ok {ownership : Ownership} {backoff : Backoff} {s : Session} {t : Tenure}
    (h : Tenure.begin ownership backoff s = .ok t) :
    t.listener = Listener.fresh backoff ownership.ownsSession ∧ t.sessions[0]? = some s ∧
      (ownership = .cloned → t.held ≠ 0) ∧
      ∃ own, t.sessions[t.held]? = some own ∧ own.disposed = s.disposed := by
  cases ownership with
  | owned => cases h; exact ⟨rfl, rfl, by simp, s, rfl, rfl⟩
  | shared => cases h; exact ⟨rfl, rfl, by simp, s, rfl, rfl⟩
  | cloned =>
    simp only [Tenure.begin, Session.copy] at h
    split at h
    · cases h
    · rename_i hd
      split at h
      · cases h
      · cases h
        exact ⟨rfl, rfl, by simp, _, rfl, by simpa using hd⟩

/-- **A listener that was stopped or disposed of rests.**  However the listener came by its
session, and whatever the session, the transport, the callers and others do: a stop leaves
it disconnected, or failed if it had failed before, and nothing but answers comes from it
until it is started or disposed of; a disposal leaves it failed for ever, and nothing but
answers comes from it any more. The session is disposed of by that call, once, if it is the
listener's own, and otherwise only by others; and a session that was copied for the listener
stays as others leave it. -/
theorem stopped_or_disposed_listener_rests (ownership : Ownership) (backoff : Backoff)
    (s : Session) (t : Tenure) (h : Tenure.begin ownership backoff s = .ok t)
    (events : List Event) :
    let lines := (t.run events).2
    let t' := (t.run events).1
    (∀ before ticket result after, lines = before ++ .did (.reply ticket result) :: after →
      servedAfter none before = some (ticket, .stop) → Listener.Stops before result after) ∧
    (∀ before ticket result after, lines = before ++ .did (.reply ticket result) :: after →
      servedAfter none before = some (ticket, .dispose) →
        Listener.Retires ownership.ownsSession before result after ∧
          disposalsIn lines = ownership.ownsSession.toNat ∧
          t'.listener.state = .permanentlyFailed) ∧
    t'.listener.state = shownAfter .disconnected lines ∧
    disposalsIn lines ≤ ownership.ownsSession.toNat ∧
    (∃ own, t'.sessions[t'.held]? = some own ∧ (own.disposed = true ↔
      s.disposed = true ∨ 0 < disposalsIn lines ∨ ∃ e ∈ events, e.disposes t.held)) ∧
    (ownership = .cloned → (∀ e ∈ events, ¬ e.touches 0) → t'.sessions[0]? = some s) := by
  intro lines t'
  obtain ⟨hlistener, hzero, hheld, own, hown, hdisposed⟩ := begin_eq_ok h
  obtain ⟨inputs, hl, hlines⟩ := log_run events t
  have hrests := Listener.rests_log backoff ownership.ownsSession inputs
  rw [← hlistener, ← hl, ← hlines] at hrests
  obtain ⟨hstops, hretires, hstate, hcount⟩ := hrests
  have hchanges := changes_run events t
  refine ⟨hstops, hretires, hstate, hcount, ?_, ?_⟩
  · obtain ⟨own', hown', hd, -⟩ := hchanges.sessions _ own hown
    refine ⟨own', by rw [hchanges.held]; exact hown', ?_⟩
    rw [hd, hdisposed]
    simp [lines]
  · intro hcloned huntouched
    obtain ⟨s', hs', -, hkept⟩ := hchanges.sessions 0 s hzero
    rw [hs', hkept ⟨Ne.symm (hheld hcloned), huntouched⟩]

/-- A listener with a copy of a session is disposed of while its channel is open: the channel
is closed, the copy is disposed of once, a start is refused, and the session that was copied
stays as it was. -/
theorem disposal_spares_session_copied :
    let s : Session := ⟨some ⟨.password "u" ⟨[]⟩, none⟩, none, some ⟨"t", 5000000000⟩, false⟩
    let events := ([.call 0 .start, .opened (.ok 7), .call 1 .dispose, .noticed, .closed 7,
      .call 2 .start] : List Input).map (Event.told 0)
    ∃ t, Tenure.begin .cloned Backoff.standard s = .ok t ∧
      (t.run events).1.listener.state = .permanentlyFailed ∧ disposalsIn (t.run events).2 = 1 ∧
      (∃ own, (t.run events).1.sessions[1]? = some own ∧ own.disposed = true) ∧
      (t.run events).1.sessions[0]? = some s := by
  intro s events
  let t : Tenure := ⟨Listener.fresh Backoff.standard true, [s, s], 1⟩
  have hbegin : Tenure.begin .cloned Backoff.standard s = .ok t := rfl
  let before : List LogLine :=
    [.heard (.call 0 .start), .turn 0 .start, .did (.show .connecting),
      .did (.attempt true ⟨5, s.token⟩), .did (.openChannel ⟨"t", 5000000000⟩),
      .heard (.opened (.ok 7)), .did (.show .connected), .did (.reply 0 (.ok ())),
      .heard (.call 1 .dispose), .turn 1 .dispose, .did (.close 7), .heard (.closed 7),
      .did (.release 7), .did (.show .disconnected), .did .disposeSession,
      .did (.show .permanentlyFailed)]
  have hlines : (t.run events).2 = before ++ .did (.reply 1 (.ok ())) ::
      [.heard (.call 2 .start), .turn 2 .start,
        .did (.reply 2 (.error (.fault (.listener .disposed))))] := by cbv
  obtain ⟨-, hretires, -, -, ⟨own, hown, hdisposed⟩, huntouched⟩ :=
    stopped_or_disposed_listener_rests .cloned Backoff.standard s t hbegin events
  obtain ⟨-, hcount, hstate⟩ := hretires before 1 (.ok ()) _ hlines rfl
  rw [(changes_run events t).held] at hown
  refine ⟨t, hbegin, hstate, hcount, ⟨own, hown, ?_⟩, huntouched rfl ?_⟩
  · rw [hdisposed, hcount]
    exact .inr (.inl Nat.one_pos)
  · simp [events, Event.touches]

end Tenure

end Appliance
