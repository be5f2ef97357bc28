import Appliance.Proofs.Listener.Course

/-!
# Every script is played

Whatever the verdicts of a script are, there are inputs that bring them, one verdict after
another: a listener that has asked for a channel is given one or refused it, a channel is
lost and closed, and after the wait the next attempt begins.

* `Poised`           — where a listener takes the inputs of a verdict.
* `enacts_verdict`   — each verdict that may come can be brought.
* `played_enactment` — **every script is played, and to its end.**
-/

namespace Appliance.Listener

/-- A listener that has asked for a channel, holds one, or has given up. -/
inductive Poised (b : Backoff) (l : Listener) : Standing → Prop
  | asking {k : Nat} (h : Alone b [] .trying k l) (hstage : l.stage? = some .opening) :
      Poised b l .trying
  | holding {s : Supervisor} (h : Alone b [] .holding 0 l) (hs : l.supervisor = some s)
      (hloop : s.loop = .watching 0) : Poised b l .holding
  | over {k : Nat} (h : Alone b [] .over k l) : Poised b l .over

/-- `Enacts b g l inputs script st`: from `l` on, while the session shows `g`, the inputs play
the script and lead to `st`. -/
structure Enacts (b : Backoff) (g : Glance) (l : Listener) (inputs : List Input)
    (script : List Verdict) (st : Standing) : Prop where
  verdicts : l.verdicts (inputs.map fun i => (g, i)) = script
  poised : Poised b (l.run (inputs.map fun i => (g, i))).1 st

theorem verdicts_append (l : Listener) (inputs inputs' : List (Glance × Input)) :
    l.verdicts (inputs ++ inputs') = l.verdicts inputs ++ (l.run inputs).1.verdicts inputs' := by
  induction inputs generalizing l with
  | nil => rfl
  | cons x rest ih => simp [verdicts, run, ih]

theorem run_append_fst (l : Listener) (inputs inputs' : List (Glance × Input)) :
    (l.run (inputs ++ inputs')).1 = ((l.run inputs).1.run inputs').1 := by
  induction inputs generalizing l with
  | nil => rfl
  | cons x rest ih => simp [run, ih]

section

variable {b : Backoff} {g : Glance} {l : Listener}

theorem Enacts.append {inputs inputs' : List Input} {script script' : List Verdict}
    {st st' : Standing} (h : Enacts b g l inputs script st)
    (h' : Poised b (l.run (inputs.map fun i => (g, i))).1 st →
      Enacts b g (l.run (inputs.map fun i => (g, i))).1 inputs' script' st') :
    Enacts b g l (inputs ++ inputs') (script ++ script') st' := by
  obtain ⟨hv, hp⟩ := h' h.poised
  refine ⟨?_, ?_⟩
  · rw [List.map_append, verdicts_append, h.verdicts, hv]
  · rw [List.map_append, run_append_fst]
    exact hp

/-- One input, and what follows it. -/
theorem Enacts.cons {k : Nat} {st st' : Standing} {i : Input} {m : Move} {v : Option Verdict}
    {rest : List Input} {script : List Verdict} (h : Alone b [] st k l) (hi : i.isCall = false)
    (hhear : l.hear g i = m) (hv : l.verdict? g i = v) (h' : Enacts b g m.1 rest script st') :
    Enacts b g l (i :: rest) (v.toList ++ script) st' := by
  have hstep : l.step g i = m := (h.step_eq g hi).trans hhear
  refine ⟨?_, ?_⟩
  · rw [List.map_cons, Listener.verdicts, hstep, hv, h'.verdicts]
  · rw [List.map_cons, run, andThen_fst, hstep]
    exact h'.poised

theorem Enacts.nil {st : Standing} (h : Poised b l st) : Enacts b g l [] [] st := ⟨rfl, h⟩

/-- A listener that has given up plays no more. -/
theorem enacts_over {k : Nat} (h : Alone b [] .over k l) {inputs : List Input}
    (hi : ∀ i ∈ inputs, i.isCall = false) : Enacts b g l inputs [] .over := by
  induction inputs generalizing l k with
  | nil => exact .nil (.over h)
  | cons i rest ih =>
    obtain ⟨⟨st', hgoes, halone⟩, -⟩ := follows_hear h g (hi i List.mem_cons_self)
    have hrest : ∀ i ∈ rest, i.isCall = false := fun i hmem => hi i (List.mem_cons_of_mem _ hmem)
    generalize hv : l.verdict? g i = v at hgoes halone
    have hover : st' = .over ∧ v = none := by
      cases hgoes <;> exact ⟨rfl, rfl⟩
    obtain ⟨rfl, rfl⟩ := hover
    exact .cons h (hi i List.mem_cons_self) rfl hv (ih halone hrest)

/-! ## The next attempt -/

/-- Attempts begin by asking for a channel, where the session holds a token that has not run
out and none was refused. -/
theorem beginAttempt_of_token {token : Token} (hleft : g.secondsLeft ≠ 0)
    (htoken : g.token = some token) : beginAttempt g false = .asks (.openChannel token) := by
  simp [beginAttempt, openWith, hleft, htoken]

/-- After a wait a listener asks for a channel again, with a new token if the last one was
refused. -/
theorem enacts_retry {token : Token} (hleft : g.secondsLeft ≠ 0) (htoken : g.token = some token)
    {s : Supervisor} {k : Nat} (h : Alone b [] .trying k l) (hl : l.serving = .nothing)
    (hs : l.supervisor = some s) (hc : s.cancelled = false) (hloop : s.loop = .waiting k) :
    Enacts b g l [.elapsed, .proceed, .refreshed (.ok ())] [] .trying := by
  obtain ⟨hb, hq, -⟩ := id h
  let ready : Supervisor := { s with loop := .ready k }
  let l₁ : Listener := { l with supervisor := some ready, state := .connecting }
  have h₁ : Alone b [] .trying k l₁ := ⟨hb, hq, .ready hl rfl hc rfl rfl⟩
  have helapsed : l.hear g .elapsed = (l.withLoop s (.ready k)).goto .connecting := by
    simp [hear, hl, hs, loopInput, hloop]
  refine .cons (v := none) h rfl helapsed (by simp [verdict?, hl, hs, hloop]) ?_
  have hproceed : l₁.hear g .proceed = l₁.loopAttempt g ready k := by
    simp [hear, hl, loopInput, l₁, ready]
  have hverdict : l₁.verdict? g .proceed = (beginAttempt g s.refreshNext).verdict? := by
    simp [verdict?, hl, l₁, ready]
  cases hr : s.refreshNext with
  | true =>
    rw [hr] at hverdict
    let l₂ : Listener := l₁.withLoop ready (.attempting k .refreshing)
    have h₂ : Alone b [] .trying k l₂ := ⟨hb, hq, .attempting hl rfl hc rfl rfl⟩
    have hasks : l₁.loopAttempt g ready k = (l₂, [.attempt false g, .refresh]) := by
      simp [loopAttempt, beginAttempt, ready, hr, attemptAdvance, Move.led, l₂, Ask.stage,
        Ask.effect]
    refine .cons (v := none) h₁ rfl (hproceed.trans hasks) hverdict ?_
    have hrefreshed : l₂.hear g (.refreshed (.ok ())) =
        (l₂.withLoop { ready with loop := .attempting k .refreshing } (.attempting k .opening),
          [.openChannel token]) := by
      simp [hear, hl, loopInput, turn?, attemptTurn, attemptAdvance, openWith, htoken, Ask.stage,
        Ask.effect, l₂, l₁, withLoop]
    refine .cons (v := none) h₂ rfl hrefreshed ?_ (.nil (.asking (k := k) ⟨hb, hq, ?_⟩ ?_))
    · simp [verdict?, hl, turn?, Turn.verdict?, Advance.verdict?, openWith, htoken, l₂, l₁,
        withLoop]
    · exact .attempting hl rfl hc rfl rfl
    · simp [stage?, hl, l₂, l₁, withLoop]
  | false =>
    rw [hr, beginAttempt_of_token hleft htoken] at hverdict
    let l₂ : Listener := l₁.withLoop ready (.attempting k .opening)
    have h₂ : Alone b [] .trying k l₂ := ⟨hb, hq, .attempting hl rfl hc rfl rfl⟩
    have hasks : l₁.loopAttempt g ready k = (l₂, [.attempt false g, .openChannel token]) := by
      have hbegin : beginAttempt g ready.refreshNext = .asks (.openChannel token) := by
        rw [← beginAttempt_of_token hleft htoken, ← hr]
      simp [loopAttempt, hbegin, attemptAdvance, Move.led, l₂, Ask.stage, Ask.effect]
    refine .cons (v := none) h₁ rfl (hproceed.trans hasks) hverdict ?_
    have hstill : l₂.hear g (.refreshed (.ok ())) = still l₂ := by
      simp [hear, hl, loopInput, turn?, l₂, l₁, withLoop]
    refine .cons (v := none) h₂ rfl hstill ?_ (.nil (.asking h₂ ?_))
    · simp [verdict?, hl, turn?, l₂, l₁, withLoop]
    · simp [stage?, hl, l₂, l₁, withLoop]

/-! ## Verdicts -/

/-- A channel that is asked for is asked for by a start or by the loop. -/
theorem asking_kinds {k : Nat} (h : Alone b [] .trying k l) (hstage : l.stage? = some .opening) :
    (∃ ticket, l.serving = .starting ticket .opening) ∨
      ∃ s, l.serving = .nothing ∧ l.supervisor = some s ∧ s.cancelled = false ∧
        s.loop = .attempting k .opening := by
  cases h.place with
  | @starting ticket stage hl hs hst =>
    obtain rfl : stage = .opening := by simpa [stage?, hl] using hstage
    exact .inl ⟨ticket, hl⟩
  | @attempting s k stage hl hs hc hloop hst =>
    obtain rfl : stage = .opening := by simpa [stage?, hl, hs, hloop] using hstage
    exact .inr ⟨s, hl, hs, hc, hloop⟩
  | waiting hl hs hc hloop hst => simp [stage?, hl, hs, hloop] at hstage
  | ready hl hs hc hloop hst => simp [stage?, hl, hs, hloop] at hstage

theorem enacts_connected {k : Nat} (h : Alone b [] .trying k l)
    (hstage : l.stage? = some .opening) :
    Enacts b g l Verdict.connected.inputs [.connected] .holding := by
  obtain ⟨hb, hq, -⟩ := id h
  rcases asking_kinds h hstage with ⟨ticket, hl⟩ | ⟨s, hl, hs, hc, hloop⟩
  · have hhear : l.hear g (.opened (.ok 0)) = l.firstOpened ticket 0 := by
      simp [hear, hl, firstInput, turn?, firstTurn]
    refine .cons (v := some .connected) h rfl hhear (by simp [verdict?, hl, turn?, Turn.verdict?])
      (.nil (.holding ⟨hb, hq, ?_⟩ rfl rfl))
    exact .watching rfl rfl rfl rfl rfl
  · have hhear : l.hear g (.opened (.ok 0)) = l.attemptOpened s 0 := by
      simp [hear, hl, hs, loopInput, hloop, turn?, attemptTurn]
    refine .cons (v := some .connected) h rfl hhear
      (by simp [verdict?, hl, hs, hloop, turn?, Turn.verdict?])
      (.nil (.holding ⟨hb, hq, ?_⟩ rfl rfl))
    exact .watching hl rfl hc rfl rfl

theorem enacts_failed {token : Token} (hleft : g.secondsLeft ≠ 0) (htoken : g.token = some token)
    {k : Nat} {f : Fault} (hf : f.isFatal = false) (h : Alone b [] .trying k l)
    (hstage : l.stage? = some .opening) :
    Enacts b g l (Verdict.failed f).inputs [.failed f] .trying := by
  obtain ⟨hb, hq, -⟩ := id h
  have hnot : ¬ f.isFatal = true := by simp [hf]
  rcases asking_kinds h hstage with ⟨ticket, hl⟩ | ⟨s, hl, hs, hc, hloop⟩
  · have hhear : l.hear g (.opened (.error f)) = l.firstFailed ticket f := by
      simp [hear, hl, firstInput, turn?, firstTurn, firstAdvance]
    refine .cons (v := some (.failed f)) h rfl hhear
      (by simp [verdict?, hl, turn?, Turn.verdict?, Advance.verdict?]) ?_
    rw [firstFailed, if_neg hnot]
    refine enacts_retry (s := ⟨.waiting 1, false, f.isTokenRefused⟩) (k := 1) hleft htoken
      ⟨hb, hq, ?_⟩ rfl rfl rfl rfl
    exact .waiting rfl rfl rfl rfl rfl
  · have hhear : l.hear g (.opened (.error f)) = l.attemptFailed s k f := by
      simp [hear, hl, hs, loopInput, hloop, turn?, attemptTurn, attemptAdvance]
    refine .cons (v := some (.failed f)) h rfl hhear
      (by simp [verdict?, hl, hs, hloop, turn?, Turn.verdict?, Advance.verdict?]) ?_
    rw [attemptFailed, if_neg hnot]
    refine enacts_retry (k := Backoff.nextAttempt k) hleft htoken ⟨hb, hq, ?_⟩ hl rfl hc rfl
    exact .waiting hl rfl hc rfl rfl

theorem enacts_failedForGood {k : Nat} {f : Fault} (hf : f.isFatal = true)
    (h : Alone b [] .trying k l) (hstage : l.stage? = some .opening) :
    Enacts b g l (Verdict.failed f).inputs [.failed f] .over := by
  have hv : l.verdict? g (.opened (.error f)) = some (.failed f) := by
    rcases asking_kinds h hstage with ⟨ticket, hl⟩ | ⟨s, hl, hs, hc, hloop⟩
    · simp [verdict?, hl, turn?, Turn.verdict?, Advance.verdict?]
    · simp [verdict?, hl, hs, hloop, turn?, Turn.verdict?, Advance.verdict?]
  obtain ⟨⟨st', hgoes, halone⟩, -⟩ := follows_hear h g (i := .opened (.error f)) rfl
  rw [hv] at hgoes
  obtain rfl : st' = .over := by
    cases hgoes with
    | fails hnot => simp [hnot] at hf
    | failsForGood => rfl
  exact .cons h rfl rfl hv (enacts_over halone (by simp [Input.isCall]))

/-- What is left of a channel that has ended is its closing. -/
theorem enacts_disconnected {s : Supervisor} {reason : DisconnectReason} {rest : List Input}
    {st : Standing} (h : Alone b [] .holding 0 l) (hs : l.supervisor = some s)
    (hloop : s.loop = .watching 0)
    (hclosed : ∀ l' s', Alone b [] .holding 0 l' → l'.serving = .nothing →
      l'.supervisor = some s' → s'.cancelled = false → s'.loop = .closing 0 (some reason) →
      Enacts b g l' (.closed 0 :: rest) [.lost reason] st) :
    Enacts b g l (.disconnected 0 reason :: .closed 0 :: rest) [.lost reason] st := by
  obtain ⟨hb, hq, hplace⟩ := id h
  obtain ⟨hl, hc, hst⟩ : l.serving = .nothing ∧ s.cancelled = false ∧ l.state = .connected := by
    cases hplace with
    | watching hl hs' hc _ hst =>
      obtain rfl := Option.some.inj (hs.symm.trans hs')
      exact ⟨hl, hc, hst⟩
    | closing hl hs' hc _ hst =>
      obtain rfl := Option.some.inj (hs.symm.trans hs')
      exact ⟨hl, hc, hst⟩
  have hhear : l.hear g (.disconnected 0 reason) =
      (l.withLoop s (.closing 0 (some reason)), [.close 0]) := by
    simp [hear, hl, hs, loopInput, hloop]
  refine .cons (v := none) h rfl hhear (by simp [verdict?, hl, hs, hloop]) ?_
  exact hclosed _ _ ⟨hb, hq, .closing hl rfl hc rfl hst⟩ hl rfl hc rfl

theorem enacts_lost {token : Token} (hleft : g.secondsLeft ≠ 0) (htoken : g.token = some token)
    {s : Supervisor} {reason : DisconnectReason} (hr : reason.isPermanent = false)
    (h : Alone b [] .holding 0 l) (hs : l.supervisor = some s) (hloop : s.loop = .watching 0) :
    Enacts b g l (Verdict.lost reason).inputs [.lost reason] .trying := by
  refine enacts_disconnected h hs hloop fun l' s' h' hl' hs' hc' hloop' => ?_
  have hhear : l'.hear g (.closed 0) = l'.channelClosed s' 0 (some reason) := by
    simp [hear, hl', hs', loopInput, hloop']
  refine .cons (v := some (.lost reason)) h' rfl hhear
    (by simp [verdict?, hl', hs', hloop']) ?_
  obtain ⟨hb, hq, -⟩ := h'
  have hclosed : l'.channelClosed s' 0 (some reason) =
      ((l'.withLoop s' (.waiting 1)).goto .retryScheduled).also
        [.release 0, .wait (l'.backoff.delay 1)] := by
    simp [channelClosed, hr, hc']
  rw [hclosed]
  refine enacts_retry (k := 1) hleft htoken ⟨hb, hq, ?_⟩ hl' rfl hc' rfl
  exact .waiting hl' rfl hc' rfl rfl

theorem enacts_lostForGood {s : Supervisor} {reason : DisconnectReason}
    (hr : reason.isPermanent = true) (h : Alone b [] .holding 0 l) (hs : l.supervisor = some s)
    (hloop : s.loop = .watching 0) :
    Enacts b g l (Verdict.lost reason).inputs [.lost reason] .over := by
  refine enacts_disconnected h hs hloop fun l' s' h' hl' hs' hc' hloop' => ?_
  have hv : l'.verdict? g (.closed 0) = some (.lost reason) := by
    simp [verdict?, hl', hs', hloop']
  obtain ⟨⟨st', hgoes, halone⟩, -⟩ := follows_hear h' g (i := .closed 0) rfl
  rw [hv] at hgoes
  obtain rfl : st' = .over := by
    cases hgoes with
    | loses hnot => simp [hnot] at hr
    | losesForGood => rfl
  exact .cons h' rfl rfl hv (enacts_over halone (by simp [Input.isCall]))

/-- **A listener that is poised can be brought every verdict that may come**, and is poised
again after the next attempt has begun. -/
theorem enacts_verdict {token : Token} (hleft : g.secondsLeft ≠ 0) (htoken : g.token = some token)
    {v : Verdict} {st st' : Standing} (hp : Poised b l st) (hgoes : Goes st (some v) st') :
    Enacts b g l v.inputs [v] st' := by
  cases hgoes with
  | connects =>
    obtain ⟨h, hstage⟩ | _ | _ := hp
    exact enacts_connected h hstage
  | fails hf =>
    obtain ⟨h, hstage⟩ | _ | _ := hp
    exact enacts_failed hleft htoken hf h hstage
  | failsForGood hf =>
    obtain ⟨h, hstage⟩ | _ | _ := hp
    exact enacts_failedForGood hf h hstage
  | loses hr =>
    obtain _ | ⟨h, hs, hloop⟩ | _ := hp
    exact enacts_lost hleft htoken hr h hs hloop
  | losesForGood hr =>
    obtain _ | ⟨h, hs, hloop⟩ | _ := hp
    exact enacts_lostForGood hr h hs hloop

/-! ## Scripts -/

/-- A script goes from verdict to verdict. -/
theorem Standing.Plays.goes {st : Standing} {v : Verdict} {rest : List Verdict}
    (h : st.Plays (v :: rest)) : ∃ st', Goes st (some v) st' ∧ st'.Plays rest := by
  cases st with
  | «over» => exact absurd h (List.cons_ne_nil v rest)
  | trying =>
    cases v with
    | connected => exact ⟨.holding, .connects, h⟩
    | lost reason => simp [Standing.Plays, isScript] at h
    | failed f =>
      by_cases hf : f.isFatal = true
      · exact ⟨.over, .failsForGood hf, by simpa [Standing.Plays, isScript, hf] using h⟩
      · have hf : f.isFatal = false := by simpa using hf
        exact ⟨.trying, .fails hf, by simpa [Standing.Plays, isScript, hf] using h⟩
  | holding =>
    cases v with
    | connected => simp [Standing.Plays, isScript] at h
    | failed f => simp [Standing.Plays, isScript] at h
    | lost reason =>
      by_cases hr : reason.isPermanent = true
      · exact ⟨.over, .losesForGood hr, by simpa [Standing.Plays, isScript, hr] using h⟩
      · have hr : reason.isPermanent = false := by simpa using hr
        exact ⟨.trying, .loses hr, by simpa [Standing.Plays, isScript, hr] using h⟩

theorem enacts_script {token : Token} (hleft : g.secondsLeft ≠ 0) (htoken : g.token = some token)
    {script : List Verdict} {st : Standing} (hp : Poised b l st) (hscript : st.Plays script) :
    ∃ st', Enacts b g l (script.flatMap Verdict.inputs) script st' := by
  induction script generalizing l st with
  | nil => exact ⟨st, .nil hp⟩
  | cons v rest ih =>
    obtain ⟨st', hgoes, hplays⟩ := hscript.goes
    have hfirst := enacts_verdict hleft htoken hp hgoes
    obtain ⟨st'', hrest⟩ := ih hfirst.poised hplays
    exact ⟨st'', hfirst.append fun _ => hrest⟩

/-- Where a listener is poised, it has nothing to show before the next verdict. -/
theorem Poised.outstanding_eq {st : Standing} (h : Poised b l st) : l.outstanding = [] := by
  cases h with
  | asking h hstage =>
    rcases asking_kinds h hstage with ⟨ticket, hl⟩ | ⟨s, hl, hs, hc, hloop⟩
    · cases h.place <;> simp_all [outstanding]
    · simp [outstanding, hs, hloop]
  | holding h hs hloop => simp [outstanding, hs, hloop]
  | «over» h =>
    cases h.place with
    | «over» hl hs =>
      cases hsup : l.supervisor with
      | none => simp [outstanding, hsup]
      | some s => simp [outstanding, hsup, (hs s hsup).2]

end

/-- The start of a listener whose session holds a token asks for a channel. -/
theorem poised_start {b : Backoff} {g : Glance} {token : Token} (hleft : g.secondsLeft ≠ 0)
    (htoken : g.token = some token) (ownsSession : Bool) (ticket : Nat) :
    Poised b ((fresh b ownsSession).step g (.call ticket .start)).1 .trying := by
  obtain ⟨m, rfl, hstep⟩ := step_start b ownsSession ticket g
  rw [hstep, beginAttempt_of_token hleft htoken]
  exact .asking (k := 0) ⟨rfl, rfl, .starting rfl rfl rfl⟩ rfl

theorem Verdict.isCall_inputs (v : Verdict) : ∀ i ∈ v.inputs, i.isCall = false := by
  cases v <;> simp [Verdict.inputs, Input.isCall]

/-- **Every script is played**, and to its end. -/
theorem played_enactment {g : Glance} {token : Token} (hleft : g.secondsLeft ≠ 0)
    (htoken : g.token = some token) (b : Backoff) (ownsSession : Bool) (ticket : Nat)
    {script : List Verdict} (hscript : isScript false script = true) :
    (∀ x ∈ enactment g script, x.2.isCall = false) ∧
      (fresh b ownsSession).played ticket g (enactment g script) = script ∧
      (((fresh b ownsSession).step g (.call ticket .start)).1.run
        (enactment g script)).1.outstanding = [] := by
  have hplays : Standing.trying.Plays script := hscript
  obtain ⟨st, hv, hp⟩ :=
    enacts_script hleft htoken (poised_start (b := b) hleft htoken ownsSession ticket) hplays
  refine ⟨?_, ?_, hp.outstanding_eq⟩
  · intro x hx
    obtain ⟨i, hi, rfl⟩ := List.mem_map.mp hx
    obtain ⟨v, -, hi⟩ := List.mem_flatMap.mp hi
    exact v.isCall_inputs i hi
  · rw [played, beginAttempt_of_token hleft htoken]
    exact hv

end Appliance.Listener
