import Appliance.Proofs.Listener.Rest

/-!
# Quiescence

What the log of a listener tells about rest, since it obeys the rule: where a call to stop
or to dispose returns, and what may come after it.

* `RestsWhile` — calls are answered, and nothing else is done.
* `Stops`, `Retires` — what holds where a call to stop or to dispose returns.
* `returns_of_obeys` — such a call returns when the listener has come to rest.
* `rests_log` — **listeners that were stopped or disposed of rest.**
-/

namespace Appliance

namespace Listener

/-! ## What a log that obeys the rule tells -/

section Lines

variable {owns : Bool} {lines : List LogLine} {k : RestNote} {served : Option (Nat × Call)}

/-- The note tells the state that is shown. -/
theorem state_noted : ((restRule owns).noted k served lines).state = shownAfter k.state lines := by
  induction lines generalizing k served with
  | nil => rfl
  | cons line rest ih =>
    have hline : (k.next served line).state = line.shown k.state := by
      cases line with
      | did effect =>
        cases effect with
        | reply ticket result => rcases served with _ | ⟨_, _ | _ | _⟩ <;> rfl
        | _ => rfl
      | _ => rfl
    rw [Rule.noted_cons, restRule_note, ih, hline, shownAfter_cons]

theorem disposalsIn_cons (line : LogLine) (lines : List LogLine) :
    disposalsIn (line :: lines) = disposalsIn lines + disposalsIn [line] := by
  simp [disposalsIn, List.countP_cons]

theorem disposalsIn_append (lines lines' : List LogLine) :
    disposalsIn (lines ++ lines') = disposalsIn lines + disposalsIn lines' :=
  List.countP_append

/-- The note counts how often the session was disposed of. -/
theorem disposals_noted :
    ((restRule owns).noted k served lines).disposals = k.disposals + disposalsIn lines := by
  induction lines generalizing k served with
  | nil => rfl
  | cons line rest ih =>
    have hline : (k.next served line).disposals = k.disposals + disposalsIn [line] := by
      cases line with
      | did effect =>
        cases effect with
        | reply ticket result => rcases served with _ | ⟨_, _ | _ | _⟩ <;> rfl
        | _ => rfl
      | _ => rfl
    have hcons := disposalsIn_cons line rest
    rw [Rule.noted_cons, restRule_note, ih, hline]
    omega

/-- A line at rest answers the call that is being served, or does nothing. -/
theorem allows_rest {line : LogLine} (hk : k.rest ≠ .active)
    (h : (restRule owns).Allows k served line) :
    (served = none ∧ ∀ effect, line ≠ .did effect) ∨
      ∃ ticket c, served = some (ticket, c) ∧ (k.rest = .stopped → c = .stop) ∧
        line = .did (.reply ticket (restAnswer c)) := by
  rcases served with _ | ⟨ticket, c⟩
  · refine .inl ⟨rfl, ?_⟩
    cases hrest : k.rest <;> simp_all [restRule]
  · refine .inr ⟨ticket, c, rfl, ?_⟩
    cases hrest : k.rest <;> simp_all [restRule]

/-- A line leaves a listener at rest, or is the turn of a call that wakes it. -/
theorem next_rest {line : LogLine} (hk : k.rest ≠ .active)
    (h : (restRule owns).Allows k served line) :
    k.next served line = k ∨ k.next served line = { k with rest := .active } ∧
      k.rest = .stopped ∧ ∃ ticket c, line = .turn ticket c ∧ c ≠ .stop := by
  rcases allows_rest hk h with ⟨rfl, hne⟩ | ⟨ticket, c, rfl, hc, rfl⟩
  · cases line with
    | heard i => exact .inl rfl
    | turn ticket c =>
      by_cases hwakes : k.rest = .stopped ∧ c ≠ .stop
      · exact .inr ⟨by rw [RestNote.next, if_pos hwakes], hwakes.1, ticket, c, rfl, hwakes.2⟩
      · exact .inl (by rw [RestNote.next, if_neg hwakes])
    | did effect => exact absurd rfl (hne effect)
  · refine .inl ?_
    exact next_reply hk hc ticket _

/-- Each line keeps a note sound. -/
theorem RestNote.Sound.next {line : LogLine} (hk : k.Sound owns)
    (h : (restRule owns).Allows k served line) : (k.next served line).Sound owns := by
  by_cases hrest : k.rest = .active
  · -- only the answer of a call that ends the loop brings an active listener to rest
    have hactive : ∀ k' : RestNote, k'.rest = .active → k'.Sound owns := fun k' hk' =>
      ⟨fun hs => by simp [hk'] at hs, fun hs => by simp [hk'] at hs⟩
    cases line with
    | heard i => exact hactive _ hrest
    | turn ticket c => exact hactive _ (by simp [RestNote.next, hrest])
    | did effect =>
      cases effect with
      | reply ticket result =>
        simp only [restRule, hrest] at h
        obtain ⟨c, rfl, hanswers⟩ := h ticket result rfl
        cases c with
        | start => exact hactive _ hrest
        | stop => exact ⟨fun _ => hanswers.2, fun hs => by simp [RestNote.next, hrest] at hs⟩
        | dispose => exact ⟨fun hs => by simp [RestNote.next] at hs, fun _ => hanswers.2⟩
      | _ => exact hactive _ hrest
  · rcases next_rest hrest h with hnext | ⟨hnext, -⟩
    · rw [hnext]
      exact hk
    · rw [hnext]
      exact ⟨by simp, by simp⟩

theorem sound_noted (h : (restRule owns).Obeys k served lines) (hk : k.Sound owns) :
    ((restRule owns).noted k served lines).Sound owns := by
  induction lines generalizing k served with
  | nil => exact hk
  | cons line rest ih => exact ih h.2 (hk.next h.1)

/-- A listener stays at rest, whatever comes if it was disposed of, and as long as it is only
stopped if it was stopped. -/
theorem rest_noted (h : (restRule owns).Obeys k served lines) (hk : k.rest ≠ .active)
    (hturns : k.rest = .stopped → ∀ ticket c, .turn ticket c ∈ lines → c = .stop) :
    ((restRule owns).noted k served lines).rest = k.rest ∧
      ∀ effect, .did effect ∈ lines → ∃ ticket result, effect = .reply ticket result := by
  induction lines generalizing k served with
  | nil => exact ⟨rfl, by simp⟩
  | cons line rest ih =>
    have hnext : (k.next served line).rest = k.rest := by
      rcases next_rest hk h.1 with hnext | ⟨-, hs, ticket, c, rfl, hc⟩
      · rw [hnext]
      · exact absurd (hturns hs ticket c List.mem_cons_self) hc
    obtain ⟨hrest, heffects⟩ := ih h.2 (hnext ▸ hk)
      fun hs ticket c hm => hturns (hnext ▸ hs) ticket c (List.mem_cons_of_mem _ hm)
    refine ⟨hrest.trans hnext, fun effect hm => ?_⟩
    rcases List.mem_cons.1 hm with rfl | hm
    · rcases allows_rest hk h.1 with ⟨-, hne⟩ | ⟨ticket, c, -, -, he⟩
      · exact absurd rfl (hne effect)
      · cases he
        exact ⟨ticket, _, rfl⟩
    · exact heffects effect hm

end Lines

/-! ## Runs of a listener -/

/-- `RestsWhile calls lines`: as long as only `calls` have their turns, nothing is done but
answering, and each of them is answered as soon as it has its turn. -/
def RestsWhile (calls : Call → Prop) (lines : List LogLine) : Prop :=
  ∀ quiet rest, lines = quiet ++ rest → (∀ ticket c, .turn ticket c ∈ quiet → calls c) →
    (∀ effect, .did effect ∈ quiet → ∃ ticket result, effect = .reply ticket result) ∧
    ∀ ticket c rest', rest = .turn ticket c :: rest' → calls c →
      ∃ rest'', rest' = .did (.reply ticket (restAnswer c)) :: rest''

/-- `Stops before result after`: what holds where a call to stop returns with the result
`result`, after the lines `before` and ahead of the lines `after`. The listener shows
`permanentlyFailed` if it has failed before and `disconnected` if not, and rests until it is
started or disposed of. -/
structure Stops (before : List LogLine) (result : Except TokenService.Failure Unit)
    (after : List LogLine) : Prop where
  result : result = .ok ()
  failed : .did (.show .permanentlyFailed) ∈ before →
    shownAfter .disconnected before = .permanentlyFailed
  stopped : .did (.show .permanentlyFailed) ∉ before →
    shownAfter .disconnected before = .disconnected
  rests : RestsWhile (· = .stop) after

/-- `Retires owns before result after`: what holds where a call to dispose returns. The
listener shows `permanentlyFailed`, has disposed of its session once if it owns it and not at
all if not, and rests for ever. -/
structure Retires (owns : Bool) (before : List LogLine)
    (result : Except TokenService.Failure Unit) (after : List LogLine) : Prop where
  result : result = .ok ()
  failed : shownAfter .disconnected before = .permanentlyFailed
  disposals : disposalsIn before = owns.toNat
  rests : RestsWhile (fun _ => True) after

theorem restsWhile_of_obeys {owns : Bool} {k : RestNote} {calls : Call → Prop}
    {lines : List LogLine} (h : (restRule owns).Obeys k none lines) (hk : k.rest ≠ .active)
    (hcalls : k.rest = .stopped → ∀ c, calls c → c = .stop)
    (hend : ((restRule owns).noted k none lines).rest ≠ .active → servedAfter none lines = none) :
    RestsWhile calls lines := by
  rintro quiet rest rfl hquiet
  obtain ⟨hquiet', hrest⟩ := (restRule owns).obeys_append.1 h
  obtain ⟨hstays, heffects⟩ := rest_noted hquiet' hk
    fun hs ticket c hm => hcalls hs c (hquiet ticket c hm)
  refine ⟨heffects, ?_⟩
  rintro ticket c rest' rfl hc
  rw [← hstays] at hk hcalls
  rw [Rule.noted_append, servedAfter_append] at hend
  generalize (restRule owns).noted k none quiet = k' at hrest hk hcalls hend
  have hturn : k'.next (servedAfter none quiet) (.turn ticket c) = k' := by
    rcases next_rest hk hrest.1 with hnext | ⟨-, hs, ticket', c', hline, hne⟩
    · exact hnext
    · cases hline
      exact absurd (hcalls hs c hc) hne
  obtain ⟨-, hrest⟩ := hrest
  rw [Rule.noted_cons, restRule_note, hturn] at hend
  rw [restRule_note, hturn] at hrest
  cases rest' with
  | nil => exact absurd (hend hk) (by simp [LogLine.served])
  | cons line rest'' =>
    rcases allows_rest hk hrest.1 with ⟨hnone, -⟩ | ⟨ticket', c', hserved, -, rfl⟩
    · simp [LogLine.served] at hnone
    · cases hserved
      exact ⟨rest'', rfl⟩

/-- The states that a log shows are those of its effects. -/
theorem shownAfter_eq_getLast (lines : List LogLine) (state : ListenerState) :
    shownAfter state lines =
      (state :: shown (lines.filterMap LogLine.effect?)).getLast (List.cons_ne_nil _ _) := by
  induction lines generalizing state with
  | nil => rfl
  | cons line rest ih =>
    rw [shownAfter_cons, ih]
    cases line with
    | did effect => cases effect <;> rfl
    | _ => rfl

theorem mem_shown_iff {lines : List LogLine} {state : ListenerState} :
    state ∈ shown (lines.filterMap LogLine.effect?) ↔ .did (.show state) ∈ lines := by
  constructor
  · intro h
    obtain ⟨effect, hm, he⟩ := List.mem_filterMap.1 h
    obtain ⟨line, hm, hline⟩ := List.mem_filterMap.1 hm
    cases effect <;> simp only [reduceCtorEq, Option.some.injEq] at he
    cases line <;> simp only [LogLine.effect?, reduceCtorEq, Option.some.injEq] at hline
    rwa [hline, he] at hm
  · intro h
    exact List.mem_filterMap.2 ⟨_, List.mem_filterMap.2 ⟨_, h, rfl⟩, rfl⟩

/-- A listener that has failed shows it from then on, and before that it does not. -/
theorem shownAfter_permanentlyFailed_iff (backoff : Backoff) (ownsSession : Bool)
    (inputs : List (Glance × Input)) {before after : List LogLine}
    (h : (fresh backoff ownsSession).log inputs = before ++ after) :
    shownAfter .disconnected before = .permanentlyFailed ↔
      .did (.show .permanentlyFailed) ∈ before := by
  have hwalk := (rel_run composes_walks walks_step inputs _ (coherent_fresh backoff ownsSession)).2
  rw [← effects_log, h, List.filterMap_append, shown_append] at hwalk
  rw [shownAfter_eq_getLast, ← mem_shown_iff]
  generalize shown (before.filterMap LogLine.effect?) = states at hwalk
  constructor
  · intro hlast
    have hmem := List.getLast_mem (List.cons_ne_nil ListenerState.disconnected states)
    rw [hlast] at hmem
    exact (List.mem_cons.1 hmem).resolve_left (by simp)
  · intro hmem
    obtain ⟨states₁, states₂, rfl⟩ := List.append_of_mem hmem
    rw [List.append_assoc] at hwalk
    have hnil := hwalk.of_append.eq_nil_of_permanentlyFailed
    rw [(List.append_eq_nil_iff.1 hnil).1]
    simp

/-- What a call to stop or to dispose leaves where it returns. -/
theorem rests_after_reply {owns : Bool} {k : RestNote} {ticket : Nat} {c : Call}
    {result : Except TokenService.Failure Unit}
    (h : (restRule owns).Allows k (some (ticket, c)) (.did (.reply ticket result)))
    (hc : c ≠ .start) :
    let k' := k.next (some (ticket, c)) (.did (.reply ticket result))
    result = .ok () ∧ k'.state = k.state ∧ k'.disposals = k.disposals ∧ k'.rest ≠ .active ∧
      (c = .dispose → k'.rest = .retired) := by
  intro k'
  by_cases hk : k.rest = .active
  · simp only [restRule, hk] at h
    obtain ⟨c', hc', hanswers⟩ := h ticket result rfl
    cases hc'
    cases c with
    | start => exact absurd rfl hc
    | stop => exact ⟨hanswers.1, rfl, rfl, by simp [k', RestNote.next, hk], by simp⟩
    | dispose => exact ⟨hanswers.1, rfl, rfl, by simp [k', RestNote.next], fun _ => rfl⟩
  · rcases allows_rest hk h with ⟨hnone, -⟩ | ⟨ticket', c', hserved, hstop, hline⟩
    · cases hnone
    · cases hserved
      cases hline
      have hsame : k' = k := next_reply hk hstop ticket _
      rw [hsame]
      refine ⟨by cases c <;> simp_all [restAnswer], rfl, rfl, hk, ?_⟩
      rintro rfl
      cases hrest : k.rest with
      | active => exact absurd hrest hk
      | stopped => cases hstop hrest
      | retired => rfl

/-- The note of a listener that was not started. -/
def RestNote.fresh : RestNote := ⟨.active, .disconnected, 0⟩

theorem sound_fresh (owns : Bool) : RestNote.fresh.Sound owns :=
  ⟨by simp [RestNote.fresh], by simp [RestNote.fresh]⟩

theorem restsAs_fresh (backoff : Backoff) (owns : Bool) :
    RestsAs owns (fresh backoff owns) .fresh where
  ownsSession := rfl
  state := rfl
  sound := sound_fresh owns
  fresh := fun _ => rfl
  idle := by simp [RestNote.fresh]
  retired := by simp [RestNote.fresh]
  disposed := by simp [Listener.fresh]

/-- `Returns owns before c result after k`: what holds where the call `c` returns with the result
`result`, after the lines `before` and ahead of the lines `after`. The note `k` says how the
listener rests there. -/
structure Returns (owns : Bool) (before : List LogLine) (c : Call)
    (result : Except TokenService.Failure Unit) (after : List LogLine) (k : RestNote) : Prop where
  result : result = .ok ()
  state : k.state = shownAfter .disconnected before
  disposals : k.disposals = disposalsIn before
  sound : k.Sound owns
  rests : k.rest ≠ .active
  retired : c = .dispose → k.rest = .retired
  obeys : (restRule owns).Obeys k none after

section Log

variable {owns : Bool} {before after : List LogLine} {ticket : Nat} {c : Call}
  {result : Except TokenService.Failure Unit}

/-- A call that ends the loop returns when the listener has come to rest. -/
theorem returns_of_obeys
    (h : (restRule owns).Obeys .fresh none (before ++ .did (.reply ticket result) :: after))
    (hc : servedAfter none before = some (ticket, c)) (hne : c ≠ .start) :
    ∃ k, Returns owns before c result after k ∧
      (restRule owns).noted .fresh none (before ++ .did (.reply ticket result) :: after) =
        (restRule owns).noted k none after ∧
      servedAfter none (before ++ .did (.reply ticket result) :: after) =
        servedAfter none after := by
  obtain ⟨hbefore, hreply, hafter⟩ := (restRule owns).obeys_append.1 h
  have hsound := sound_noted hbefore (sound_fresh owns)
  have hstate : ((restRule owns).noted .fresh none before).state =
      shownAfter .disconnected before := state_noted
  have hdisposals : ((restRule owns).noted .fresh none before).disposals =
      0 + disposalsIn before := disposals_noted
  rw [Rule.noted_append, Rule.noted_cons, servedAfter_append, servedAfter_cons, hc]
  rw [hc] at hreply hafter
  obtain ⟨hresult, hstate', hdisposals', hrest, hretired⟩ := rests_after_reply hreply hne
  refine ⟨_, ⟨hresult, hstate'.trans hstate, ?_, hsound.next hreply, hrest, hretired, hafter⟩,
    rfl, rfl⟩
  rw [hdisposals', hdisposals, Nat.zero_add]

/-- What the log of a listener tells, all of it. -/
theorem obeys_restRule (backoff : Backoff) (owns : Bool) (inputs : List (Glance × Input)) :
    let lines := (fresh backoff owns).log inputs
    let k := (restRule owns).noted .fresh none lines
    (restRule owns).Obeys .fresh none lines ∧
      RestsAs owns ((fresh backoff owns).run inputs).1 k ∧
      (k.rest ≠ .active → servedAfter none lines = none) := by
  intro lines k
  obtain ⟨hobeys, hk, -, hserved⟩ :=
    Rule.Kept.obeys_log (kept_restRule owns) backoff owns (restsAs_fresh backoff owns) inputs
  refine ⟨hobeys, hk, fun hrest => ?_⟩
  rw [hserved, (hk.idle hrest).1]
  rfl

variable {backoff : Backoff} {inputs : List (Glance × Input)}

/-- A call to stop brings a listener to rest. -/
theorem stops_log
    (h : (fresh backoff owns).log inputs = before ++ .did (.reply ticket result) :: after)
    (hc : servedAfter none before = some (ticket, .stop)) : Stops before result after := by
  obtain ⟨hobeys, -, hend⟩ := obeys_restRule backoff owns inputs
  rw [h] at hobeys hend
  obtain ⟨k, hk, hnoted, hserved⟩ := returns_of_obeys hobeys hc (by simp)
  rw [hnoted, hserved] at hend
  have hfailed := shownAfter_permanentlyFailed_iff backoff owns inputs h
  refine ⟨hk.result, hfailed.2, fun hne => ?_, ?_⟩
  · rw [← hfailed, ← hk.state] at hne
    rw [← hk.state]
    cases hrest : k.rest with
    | active => exact absurd hrest hk.rests
    | stopped => exact (hk.sound.stopped hrest).resolve_right hne
    | retired => exact absurd (hk.sound.retired hrest).1 hne
  · exact restsWhile_of_obeys hk.obeys hk.rests (fun _ _ => id) hend

/-- A call to dispose retires a listener. -/
theorem retires_log
    (h : (fresh backoff owns).log inputs = before ++ .did (.reply ticket result) :: after)
    (hc : servedAfter none before = some (ticket, .dispose)) :
    Retires owns before result after ∧
      disposalsIn ((fresh backoff owns).log inputs) = owns.toNat ∧
      ((fresh backoff owns).run inputs).1.state = .permanentlyFailed := by
  obtain ⟨hobeys, hlast, hend⟩ := obeys_restRule backoff owns inputs
  have hdisposals :
      ((restRule owns).noted .fresh none ((fresh backoff owns).log inputs)).disposals =
        0 + disposalsIn ((fresh backoff owns).log inputs) := disposals_noted
  rw [← Nat.zero_add (disposalsIn _), ← hdisposals, ← hlast.state]
  rw [h] at hobeys hlast hend ⊢
  obtain ⟨k, hk, hnoted, hserved⟩ := returns_of_obeys hobeys hc (by simp)
  have hretired := hk.retired rfl
  obtain ⟨hstate, hcount⟩ := hk.sound.retired hretired
  rw [hnoted, hserved] at hend
  rw [hnoted] at hlast ⊢
  have hrest := (rest_noted hk.obeys hk.rests (by simp [hretired])).1
  obtain ⟨hstate', hcount'⟩ := hlast.sound.retired (hrest.trans hretired)
  refine ⟨⟨hk.result, hk.state ▸ hstate, hk.disposals ▸ hcount, ?_⟩, hcount', hstate'⟩
  exact restsWhile_of_obeys hk.obeys hk.rests (by simp [hretired]) hend

end Log

/-- **Listeners that were stopped or disposed of rest.** -/
theorem rests_log (backoff : Backoff) (owns : Bool) (inputs : List (Glance × Input)) :
    let lines := (fresh backoff owns).log inputs
    let l := ((fresh backoff owns).run inputs).1
    (∀ before ticket result after, lines = before ++ .did (.reply ticket result) :: after →
      servedAfter none before = some (ticket, .stop) → Stops before result after) ∧
    (∀ before ticket result after, lines = before ++ .did (.reply ticket result) :: after →
      servedAfter none before = some (ticket, .dispose) →
        Retires owns before result after ∧ disposalsIn lines = owns.toNat ∧
          l.state = .permanentlyFailed) ∧
    l.state = shownAfter .disconnected lines ∧ disposalsIn lines ≤ owns.toNat := by
  intro lines l
  obtain ⟨-, hlast, -⟩ := obeys_restRule backoff owns inputs
  refine ⟨fun _ _ _ _ => stops_log, fun _ _ _ _ => retires_log, ?_, ?_⟩
  · rw [← hlast.state, state_noted]
    rfl
  · have hdisposals : ((restRule owns).noted .fresh none lines).disposals = 0 + disposalsIn lines :=
      disposals_noted
    rw [Nat.zero_add] at hdisposals
    rw [← hdisposals]
    by_cases hr : ((restRule owns).noted .fresh none lines).rest = .retired
    · exact (hlast.sound.retired hr).2.le
    · rw [hlast.fresh hr]
      exact Nat.zero_le _

end Listener

end Appliance
