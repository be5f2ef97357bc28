import Appliance.Proofs.Hub.Ending
import Appliance.Proofs.Hub.Opening
import Appliance.Proofs.Listener.Failure
import Appliance.Proofs.Listener.Told

/-!
# What a listener of the event hub recovers from

A listener tries again after every failure that may pass by itself. This file shows that
nothing the server, the hub, the network, the handlers or the callback can do makes it
give up, but for a close record of the hub that forbids it to come back.

* `Wired` — the invariant that ties the listener to its opening and its channels.
* `disposing_run` — a disposal under way was called for in the run.
* `Doomed` — all that can make the listener give up.
* `permanentlyFailed_only_if_doomed` — **the listener gives up only for one of these
  causes, and no opening fails by a fault that is one.**
-/

namespace Appliance.HubListener

open Hub (Channel Line Opening)

variable {w : HubListener}

/-! ## What the parts leave alone -/

theorem listener_act (w : HubListener) (effect : Listener.Effect) :
    (w.act effect).listener = w.listener ∧ (w.act effect).options = w.options := by
  cases effect <;> exact ⟨rfl, rfl⟩

/-- What the listener does leaves the reasons of its channels alone. -/
theorem reason?_act (w : HubListener) (effect : Listener.Effect) (n : Nat) :
    (w.act effect).reason? n = w.reason? n := by
  cases effect with
  | close k =>
    simp only [act, reason?, List.getElem?_modify]
    cases w.lines[n]? with
    | none => rfl
    | some l =>
      by_cases hk : k = n
      · simp [hk, Line.reason?, Line.channel?]
      · simp [hk]
  | _ => rfl

/-- `Presents options o`: the opening has come about by presenting a token. -/
def Presents (options : Listener.Options) (o : Option Opening) : Prop :=
  ∀ o' ∈ o, ∃ token inputs, o' = Opening.run options (.begin token) inputs

theorem presents_act (effect : Listener.Effect) (h : Presents w.options w.opening) :
    Presents w.options (w.act effect).opening := by
  cases effect with
  | openChannel token =>
    intro o ho
    obtain rfl := Option.some.inj ho
    exact ⟨token.text, [], rfl⟩
  | abandon => simp [act, Presents]
  | _ => exact h

theorem foldl_act (effects : List Listener.Effect) (h : Presents w.options w.opening) :
    (effects.foldl act w).listener = w.listener ∧ (effects.foldl act w).options = w.options ∧
      (∀ n, (effects.foldl act w).reason? n = w.reason? n) ∧
      Presents w.options (effects.foldl act w).opening := by
  induction effects generalizing w with
  | nil => exact ⟨rfl, rfl, fun _ => rfl, h⟩
  | cons effect rest ih =>
    obtain ⟨hl, ho⟩ := listener_act w effect
    obtain ⟨hl', ho', hr', hp'⟩ := ih (w := w.act effect) (by rw [ho]; exact presents_act effect h)
    refine ⟨hl'.trans hl, ho'.trans ho, fun n => (hr' n).trans (reason?_act w effect n), ?_⟩
    rw [ho] at hp'
    exact hp'

/-- The handlers, whatever they do, leave all but themselves alone. -/
theorem foldl_deliver (effects : List Channel.Effect) (w : HubListener) :
    (effects.foldl deliver w).observed = w.observed ∧
      (effects.foldl deliver w).options = w.options ∧
      (effects.foldl deliver w).opening = w.opening ∧
      (effects.foldl deliver w).lines = w.lines := by
  induction effects generalizing w with
  | nil => exact ⟨rfl, rfl, rfl, rfl⟩
  | cons effect rest ih =>
    obtain ⟨h1, h2, h3, h4⟩ := ih (w.deliver effect)
    cases effect <;> exact ⟨h1, h2, h3, h4⟩

/-- A channel that moves keeps its reason, if it has one. -/
theorem reason?_move {n : Nat} {l l' : Line} (effects : List Channel.Effect)
    (hl : w.lines[n]? = some l)
    (hkeep : ∀ r, l.reason? w.options = some r → l'.reason? w.options = some r) {k : Nat}
    {r : DisconnectReason} (h : w.reason? k = some r) : (w.move n l' effects).reason? k = some r := by
  obtain ⟨-, ho, -, hlines⟩ := foldl_deliver effects { w with lines := w.lines.set n l' }
  have hlt : n < w.lines.length := (List.getElem?_eq_some_iff.1 hl).1
  rw [move, reason?, ho, hlines, List.getElem?_set]
  split
  · rename_i hk
    rw [reason?, ← hk, hl] at h
    exact hkeep r h
  · exact h

/-- `Frames w w'`: what happens on the way from `w` to `w'` is none of the listener's
doing, and it does not hear of it. -/
structure Frames (w w' : HubListener) : Prop where
  observed : w'.observed = w.observed
  options : w'.options = w.options
  reason : ∀ n r, w.reason? n = some r → w'.reason? n = some r
  presents : Presents w.options w.opening → Presents w.options w'.opening

theorem Frames.refl (w : HubListener) : Frames w w := ⟨rfl, rfl, fun _ _ h => h, id⟩

theorem Frames.of_move {n : Nat} {l l' : Line} (effects : List Channel.Effect)
    (hl : w.lines[n]? = some l)
    (hkeep : ∀ r, l.reason? w.options = some r → l'.reason? w.options = some r) :
    Frames w (w.move n l' effects) := by
  obtain ⟨h1, h2, h3, -⟩ := foldl_deliver effects { w with lines := w.lines.set n l' }
  exact {
    observed := h1
    options := h2
    reason := fun _ _ => reason?_move effects hl hkeep
    presents := fun h => by
      rw [move, h3]
      exact h }

theorem frames_transport (w : HubListener) (e : Event) : Frames w (w.transport e) := by
  cases e with
  | opening input =>
    refine ⟨rfl, rfl, fun _ _ h => h, fun h => ?_⟩
    intro o ho
    obtain ⟨o', ho', rfl⟩ := Option.map_eq_some_iff.1 ho
    obtain ⟨token, inputs, rfl⟩ := h o' ho'
    exact ⟨token, inputs ++ [input], by simp [Opening.run]⟩
  | opened =>
    simp only [transport]
    split
    · rename_i pending ho
      refine ⟨rfl, rfl, fun n r h => ?_, fun _ => by simp [Presents]⟩
      -- a channel that has a reason was there before
      rw [reason?] at h ⊢
      obtain ⟨l, hl, hr⟩ := Option.bind_eq_some_iff.1 h
      have hlt := (List.getElem?_eq_some_iff.1 hl).1
      rw [List.getElem?_append_left hlt, hl]
      exact hr
    · exact ⟨rfl, rfl, fun _ _ h => h, fun _ => by simp [Presents]⟩
    · exact .refl w
  | began n now =>
    simp only [transport]
    split
    · rename_i l hl
      split
      · exact .refl w
      · rename_i hnone
        refine .of_move _ hl fun r hr => ?_
        have hbegan : l.began = none := by simpa using hnone
        simp [Line.reason?, Line.channel?, hbegan] at hr
    · exact .refl w
  | took n now input =>
    simp only [transport]
    split
    · rename_i l hl
      split
      · split
        · exact .of_move _ hl fun r hr => Line.reason?_take hr (now, input)
        · exact .refl w
      · exact .refl w
    · exact .refl w
  | subscribe op => exact ⟨rfl, rfl, fun _ _ h => h, id⟩
  | _ => exact .refl w

/-! ## The invariant -/

/-- `Wired w`: the listener's opening and channels are what it takes them for. -/
structure Wired (w : HubListener) : Prop where
  /-- An opening has come about by presenting a token. -/
  opening : Presents w.options w.opening
  /-- A channel that is being closed has ended with the reason that the listener got. -/
  closing : ∀ n r, w.listener.Closing n r → w.reason? n = some r

theorem wired_fresh (options : Listener.Options) (ownsSession : Bool) (callback : Callback)
    (subscriptions : Subscriptions Handler) :
    Wired (fresh options ownsSession callback subscriptions) where
  opening := by simp [fresh, Presents]
  closing n r h := by
    obtain ⟨s, hs, -⟩ := h
    simp [fresh, listener, Observed.fresh, Listener.fresh] at hs

/-- The listener hears what it is told. -/
theorem tell_spec (g : Listener.Glance) (i : Listener.Input)
    (h : Presents w.options w.opening) :
    (w.tell g i).listener = (w.listener.step g i).1 ∧ (w.tell g i).options = w.options ∧
      (∀ n, (w.tell g i).reason? n = w.reason? n) ∧ Presents w.options (w.tell g i).opening := by
  obtain ⟨hl, ho, hr, hp⟩ :=
    foldl_act (w := { w with observed := w.observed.step g i }) (w.listener.step g i).2 h
  exact ⟨hl.trans (Observed.listener_step w.observed g i), ho, hr, hp⟩

/-- What happens leads the listener where its own step leads it, if it hears of it. -/
theorem listener_step_of_some {g : Listener.Glance} {e : Event} {i : Listener.Input}
    (hw : Wired w) (hi : w.input? e = some i) :
    (w.step g e).listener = (w.listener.step g i).1 := by
  have hframes := frames_transport w e
  have hp : Presents (w.transport e).options (w.transport e).opening := by
    rw [hframes.options]
    exact hframes.presents hw.opening
  have hlistener : (w.transport e).listener = w.listener :=
    congrArg Observed.listener hframes.observed
  rw [step, hi]
  simp only []
  rw [(tell_spec g i hp).1, hlistener]

theorem listener_step_of_none {g : Listener.Glance} {e : Event} (hi : w.input? e = none) :
    (w.step g e).listener = w.listener := by
  rw [step, hi]
  exact congrArg Observed.listener (frames_transport w e).observed

/-- What happens leaves the options and the reasons alone, and openings present tokens. -/
theorem step_keeps (hw : Wired w) (g : Listener.Glance) (e : Event) :
    (w.step g e).options = w.options ∧
      (∀ n r, w.reason? n = some r → (w.step g e).reason? n = some r) ∧
      Presents w.options (w.step g e).opening := by
  have hframes := frames_transport w e
  unfold step
  split
  · rename_i i hi
    have hp : Presents (w.transport e).options (w.transport e).opening := by
      rw [hframes.options]
      exact hframes.presents hw.opening
    obtain ⟨-, ho, hr, hp'⟩ := tell_spec g i hp
    refine ⟨ho.trans hframes.options, fun n r h => ?_, ?_⟩
    · rw [hr]
      exact hframes.reason n r h
    · rw [hframes.options] at hp'
      exact hp'
  · exact ⟨hframes.options, hframes.reason, hframes.presents hw.opening⟩

/-- `Tells w e i`: the listener hears of `e` as the input `i`. -/
inductive Tells (w : HubListener) : Event → Listener.Input → Prop
  | call (ticket : Nat) (c : Listener.Call) : Tells w (.call ticket c) (.call ticket c)
  | refreshed (result : Except TokenService.Failure Unit) :
      Tells w (.refreshed result) (.refreshed result)
  | elapsed : Tells w .elapsed .elapsed
  | proceed : Tells w .proceed .proceed
  | noticed : Tells w .noticed .noticed
  | opened {pending : List String} (h : w.opening = some (.opened pending)) :
      Tells w .opened (.opened (.ok w.lines.length))
  | failed {f : Fault} (h : w.opening = some (.failed f)) : Tells w .opened (.opened (.error f))
  | ended {n : Nat} {r : DisconnectReason} (h : w.reason? n = some r) :
      Tells w (.ended n) (.disconnected n r)
  | closed {n : Nat} {r : DisconnectReason} (h : w.reason? n = some r) :
      Tells w (.closed n) (.closed n)

theorem tells_of_input? {e : Event} {i : Listener.Input} (h : w.input? e = some i) :
    Tells w e i := by
  cases e with
  | call ticket c =>
    cases h
    exact .call ticket c
  | refreshed result =>
    cases h
    exact .refreshed result
  | elapsed =>
    cases h
    exact .elapsed
  | proceed =>
    cases h
    exact .proceed
  | noticed =>
    cases h
    exact .noticed
  | opened =>
    simp only [input?] at h
    split at h
    · rename_i pending ho
      cases h
      exact .opened ho
    · rename_i f ho
      cases h
      exact .failed ho
    · simp at h
  | ended n =>
    obtain ⟨r, hr, rfl⟩ := Option.map_eq_some_iff.1 h
    exact .ended hr
  | closed n =>
    obtain ⟨r, hr, rfl⟩ := Option.map_eq_some_iff.1 h
    exact .closed hr
  | _ => simp [input?] at h

theorem wired_step (hw : Wired w) (g : Listener.Glance) (e : Event) : Wired (w.step g e) := by
  obtain ⟨ho, hr, hp⟩ := step_keeps hw g e
  refine ⟨by rw [ho]; exact hp, fun n r h => hr n r ?_⟩
  cases hi : w.input? e with
  | none =>
    rw [listener_step_of_none hi] at h
    exact hw.closing n r h
  | some i =>
    rw [listener_step_of_some hw hi] at h
    rcases Listener.closing_step h with h | rfl
    · exact hw.closing n r h
    · cases tells_of_input? hi with
      | ended hreason => exact hreason

theorem wired_run (hw : Wired w) (events : List (Listener.Glance × Event)) :
    Wired (w.run events) := by
  induction events generalizing w with
  | nil => exact hw
  | cons e rest ih => exact ih (wired_step hw e.1 e.2)

/-! ## Disposals -/

/-- **A disposal under way was called for in the run.** -/
theorem disposing_run (hw : Wired w) {events : List (Listener.Glance × Event)}
    (h : (w.run events).listener.Disposing) :
    w.listener.Disposing ∨ ∃ g ticket, (g, .call ticket .dispose) ∈ events := by
  induction events generalizing w with
  | nil => exact Or.inl h
  | cons x rest ih =>
    obtain ⟨g, e⟩ := x
    rcases ih (wired_step hw g e) h with h | ⟨g', ticket, h⟩
    · cases hi : w.input? e with
      | none =>
        rw [listener_step_of_none hi] at h
        exact Or.inl h
      | some i =>
        rw [listener_step_of_some hw hi] at h
        rcases Listener.disposing_step h with h | ⟨ticket, rfl⟩
        · exact Or.inl h
        · cases tells_of_input? hi with
          | call => exact Or.inr ⟨g, ticket, List.mem_cons_self⟩
    · exact Or.inr ⟨g', ticket, List.mem_cons_of_mem _ h⟩

/-! ## What makes the listener give up -/

/-- `Doomed before w g e`: after the run `before`, which leads to `w`, the event `e` may
make the listener give up. The session shows `g` at this moment. -/
inductive Doomed (before : List (Listener.Glance × Event)) (w : HubListener)
    (g : Listener.Glance) (e : Event) : Prop
  /-- The listener was called to dispose of itself. -/
  | disposed {g' : Listener.Glance} {ticket : Nat}
      (h : (g', .call ticket .dispose) ∈ before ++ [(g, e)])
  /-- The first thing that has ended a channel was a close record that forbids a new one. -/
  | forbidden {n : Nat} {l : Line} (he : e = .closed n) (hl : w.lines[n]? = some l)
      (h : l.EndedForGood w.options)
  /-- The session could not get a new token, and will not. -/
  | refused {f : Fault} (hs : w.listener.stage? = some .refreshing)
      (he : e = .refreshed (.error (.fault f))) (hf : f.isTransient = false)
  /-- The session holds no token, though it has just got one or shows time left. -/
  | tokenless (hg : g.token = none)
      (h : (w.listener.stage? = some .refreshing ∧ e = .refreshed (.ok ())) ∨
        (g.secondsLeft ≠ 0 ∧ ∃ i first, w.input? e = some i ∧
          .attempt first g ∈ (w.listener.step g i).2))

/-- **What a listener of the event hub does not recover from.**  Whatever the session, the
hub, the network, the clock, the handlers, the callback and the callers do: the listener
gives up only when it was called to, when the hub has ended a channel and forbidden a new
one, when the session could not get a new token and will not, or when it holds none.  An
opening fails only by faults that may pass, and asks for a new token exactly when the old
one was presented and the server has refused it in time. -/
theorem permanentlyFailed_only_if_doomed (options : Listener.Options) (ownsSession : Bool)
    (callback : Callback) (subscriptions : Subscriptions Handler) :
    (∀ (before : List (Listener.Glance × Event)) (g : Listener.Glance) (e : Event),
      let w := (fresh options ownsSession callback subscriptions).run before
      w.listener.state ≠ .permanentlyFailed →
      (w.step g e).listener.state = .permanentlyFailed → Doomed before w g e) ∧
    ∀ (token : String) (inputs : List Opening.Input),
      (∀ f, Opening.run options (.begin token) inputs = .failed f → f.isTransient = true) ∧
      ((∃ f, Opening.run options (.begin token) inputs = .failed f ∧ f.isTokenRefused = true) ↔
        (∃ header, Hub.bearer token = .ok header) ∧
          (Opening.answer? inputs = some (.refused 401) ∨
            Opening.answer? inputs = some (.refused 403))) := by
  refine ⟨?_, fun token inputs => ⟨fun f => Opening.isTransient_of_failed, Opening.tokenRefused_iff⟩⟩
  intro before g e w hrunning hfailed
  have hfresh := wired_fresh options ownsSession callback subscriptions
  have hw : Wired w := wired_run hfresh before
  cases hi : w.input? e with
  | none =>
    rw [listener_step_of_none hi] at hfailed
    exact absurd hfailed hrunning
  | some i =>
    rw [listener_step_of_some hw hi] at hfailed
    have htells := tells_of_input? hi
    cases Listener.ruin_of_step hrunning hfailed with
    | disposed h =>
      rcases h with h | ⟨ticket, rfl⟩
      · have hnone : ¬ (fresh options ownsSession callback subscriptions).listener.Disposing := by
          simp [Listener.Disposing, fresh, listener, Observed.fresh, Listener.fresh]
        obtain ⟨g', ticket, hmem⟩ := (disposing_run hfresh h).resolve_left hnone
        exact .disposed (List.mem_append_left _ hmem)
      · cases htells with
        | call => exact .disposed (List.mem_append_right _ (List.mem_singleton_self _))
    | forbidden h hr hn =>
      rw [hn] at htells
      cases htells with
      | closed _ =>
        obtain ⟨l, hl, hreason⟩ := Option.bind_eq_some_iff.1 (hw.closing _ _ h)
        exact .forbidden rfl hl (Line.endedForGood_of_reason? hreason hr)
    | refused hs hn hf =>
      rw [hn] at htells
      cases htells with
      | refreshed => exact .refused hs rfl hf
    | unopened hs hn hf =>
      rw [hn] at htells
      cases htells with
      | failed ho =>
        -- no opening fails by such a fault
        obtain ⟨token, inputs, hopening⟩ := hw.opening _ ho
        rw [Opening.isTransient_of_failed hopening.symm] at hf
        simp at hf
    | tokenless hg h =>
      refine .tokenless hg ?_
      rcases h with ⟨hs, hn⟩ | ⟨hsec, first, hmem⟩
      · rw [hn] at htells
        cases htells with
        | refreshed => exact Or.inl ⟨hs, rfl⟩
      · exact Or.inr ⟨hsec, i, first, hi, hmem⟩

/-- What a session shows that holds a token with an hour left. -/
def lively : Listener.Glance := ⟨3600, some ⟨"t", 0⟩⟩

/-- A run in which the hub opens a channel, and ends it with a record that forbids a new
one. -/
def partingRun : List (Listener.Glance × Event) :=
  [(lively, .call 0 .start), (lively, .opening (.answered .upgraded)),
    (lively, .opening (.received (.ok (.text "\x7b\x7d\x1e")))), (lively, .opened),
    (lively, .began 0 0), (lively, .took 0 0 (.received (.text
      "\x7b\"type\":7,\"error\":\"gone\",\"allowReconnect\":false\x7d\x1e"))),
    (lively, .took 0 0 .socketClosed), (lively, .ended 0)]

/-- A hub that ends a channel and forbids a new one makes the listener give up. -/
theorem doomed_by_close_record :
    let w := (fresh .standard true (fun _ _ => true) .empty).run partingRun
    w.listener.state = .connected ∧ (w.step lively (.closed 0)).listener.state = .permanentlyFailed ∧
      Doomed partingRun w lively (.closed 0) := by
  have hrunning : ((fresh .standard true (fun _ _ => true) .empty).run partingRun).listener.state =
      .connected := by decide +kernel
  have hfailed : (((fresh .standard true (fun _ _ => true) .empty).run partingRun).step lively
      (.closed 0)).listener.state = .permanentlyFailed := by decide +kernel
  exact ⟨hrunning, hfailed, (permanentlyFailed_only_if_doomed .standard true (fun _ _ => true)
    .empty).1 partingRun lively (.closed 0) (by rw [hrunning]; simp) hfailed⟩

end Appliance.HubListener
