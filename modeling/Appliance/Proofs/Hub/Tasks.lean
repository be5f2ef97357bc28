import Appliance.Hub.Tasks
import Appliance.Proofs.Hub.Ending
import Appliance.Proofs.Listener.Phases
import Appliance.Proofs.Listener.Told

/-!
# What the task of a channel has to do

A channel gives its reason once, and does nothing after that. So the task of a channel gives
the reason when it has performed all the rest, and has then nothing more to perform.

* `Channel.Parts` — a move gives a reason last, and then the channel is gone.
* `Channel.parts_begin`, `Channel.parts_step` — **every move of a channel does.**
* `ChannelTask.Fits` — a task that has still to give the reason of its channel, or is idle.
* `Turns`, `turning?_spec` — how a channel goes on, and what comes of it.
* `SameLines` — what the listener does leaves its channels alone.
-/

namespace Appliance

namespace Hub

/-! ## Channels -/

namespace Channel

/-- The reason that a channel that is gone has given. -/
def parted? : Channel → Option DisconnectReason
  | .over reason => some reason
  | .broken => some .dropped
  | _ => none

/-- `Parts m`: the move gives no reason and the channel is there, or it gives one last and
the channel is gone for that reason. -/
def Parts (m : Move) : Prop :=
  (∀ x ∈ m.2, x.given? = none) ∧ m.1.parted? = none ∨
  ∃ quiet last, m.2 = quiet ++ [last] ∧ (∀ x ∈ quiet, x.given? = none) ∧
    last.given?.isSome = true ∧ m.1.parted? = last.given?

theorem parts_stays {c : Channel} (hc : c.parted? = none) {effects : List Effect}
    (h : ∀ x ∈ effects, x.given? = none) : Parts (c, effects) := .inl ⟨h, hc⟩

theorem given?_deliver (events : List Event) : ∀ x ∈ events.map Effect.deliver, x.given? = none := by
  intro x hx
  obtain ⟨e, -, rfl⟩ := List.mem_map.1 hx
  rfl

theorem parts_breaking (effects : List Effect) (h : ∀ x ∈ effects, x.given? = none) :
    Parts (.broken, effects ++ [.breakOff]) :=
  .inr ⟨effects, .breakOff, rfl, h, rfl, rfl⟩

theorem parts_leave (reason : DisconnectReason) (effects : List Effect)
    (h : ∀ x ∈ effects, x.given? = none) : Parts (.leaving reason, effects ++ [.closeSocket]) :=
  parts_stays rfl (List.forall_mem_append.2 ⟨h, by simp [Effect.given?]⟩)

variable {options : Listener.Options} {now : Instant}

/-- A channel that begins gives a reason only if it breaks off at once. -/
theorem parts_begin (pending : List String) : Parts (begin options now pending) := by
  simp only [begin]
  generalize hhandled : handle pending = handled
  obtain ⟨events, reason⟩ := handled
  cases reason with
  | some reason => exact parts_leave reason _ (given?_deliver events)
  | none =>
    simp only [listen]
    split
    · exact parts_breaking _ (given?_deliver events)
    · split
      · exact parts_breaking _ (given?_deliver events)
      · rw [List.append_nil]
        exact parts_stays rfl (given?_deliver events)

theorem parts_receive {stays : Channel} (hc : stays.parted? = none) (m : WebSocket.Message) :
    Parts (receive stays m) := by
  cases m with
  | text s =>
    simp only [receive, settle]
    split
    · exact parts_stays hc (given?_deliver _)
    · exact parts_leave _ _ (given?_deliver _)
  | close notice => exact parts_leave _ [] (by simp)
  | _ => exact parts_stays hc (by simp)

/-- A channel that is there gives a reason only by what it does last. -/
theorem parts_step {c : Channel} (hc : c.parted? = none) (input : Input) :
    Parts (c.step options now input) := by
  cases c with
  | listening pingDue silenceDue =>
    cases input with
    | received m =>
      simp only [step]
      split
      · exact parts_receive rfl m
      · exact parts_breaking [] (by simp)
    | failed detail => exact parts_leave _ [] (by simp)
    | ended => exact parts_leave _ [] (by simp)
    | shutdown => exact parts_leave _ [.send closeRecord] (by simp [Effect.given?])
    | tick =>
      simp only [step, tick]
      split
      · exact parts_leave _ [] (by simp)
      · split
        · exact parts_stays rfl (by simp [Effect.given?])
        · exact parts_stays rfl (by simp)
    | socketClosed => exact parts_stays rfl (by simp)
  | leaving reason =>
    cases input with
    | socketClosed => exact .inr ⟨[], .notify reason, rfl, by simp, rfl, rfl⟩
    | _ => exact parts_stays rfl (by simp)
  | «over» reason => cases hc
  | broken => cases hc

/-- A channel that is gone does nothing. -/
theorem step_of_parted {c : Channel} {reason : DisconnectReason} (hc : c.parted? = some reason)
    (input : Input) : c.step options now input = (c, []) := by
  cases c with
  | «over» reason => cases input <;> rfl
  | broken => cases input <;> rfl
  | _ => cases hc

end Channel

namespace Line

variable {options : Listener.Options}

/-- The listener gets the reason that the channel has given. -/
theorem reason?_eq (l : Line) : l.reason? options = (l.channel? options).bind Channel.parted? := by
  unfold reason?
  cases l.channel? options with
  | none => rfl
  | some c => cases c <;> rfl

/-- `l.Orderly`: a channel takes nothing before it begins. -/
def Orderly (l : Line) : Prop := l.began = none → l.taken = []

theorem channel?_began {l : Line} (hl : l.Orderly) (hb : l.began = none) (now : Instant) :
    { l with began := some now }.channel? options =
      some (Channel.begin options now l.pending).1 := by
  simp [channel?, after, hl hb]

theorem channel?_took {l : Line} {c : Channel} (hc : l.channel? options = some c) (now : Instant)
    (input : Channel.Input) :
    { l with taken := l.taken ++ [(now, input)] }.channel? options =
      some (c.step options now input).1 := by
  obtain ⟨began, hb, rfl⟩ := Option.map_eq_some_iff.1 hc
  simp [channel?, after, hb]

end Line

/-! ## Tasks -/

namespace ChannelTask

/-- `t.Fits reason?`: the task has given the reason of its channel, if there is one, and has
then nothing more to perform; or it has still to give the reason, and that last. -/
def Fits (t : ChannelTask) (reason? : Option DisconnectReason) : Prop :=
  (∀ x ∈ t.due, x.given? = none) ∧ t.given = reason? ∧ (t.given.isSome = true → t.isIdle = true) ∨
  ∃ quiet last, t.due = quiet ++ [last] ∧ (∀ x ∈ quiet, x.given? = none) ∧
    last.given?.isSome = true ∧ reason? = last.given? ∧ t.given = none

theorem isIdle_iff {t : ChannelTask} : t.isIdle = true ↔ t.due = [] ∧ t.calling = none := by
  simp [isIdle]

theorem isDone_iff {t : ChannelTask} :
    t.isDone = true ↔ t.isIdle = true ∧ ∃ r, t.given = some r := by
  rw [isDone, Bool.and_eq_true, Option.isSome_iff_exists]

theorem fits_fresh : fresh.Fits none := .inl ⟨by simp [fresh], rfl, fun _ => rfl⟩

/-- A task that is idle has given what there is to give. -/
theorem Fits.of_idle {t : ChannelTask} {reason? : Option DisconnectReason} (h : t.Fits reason?)
    (hi : t.isIdle = true) : t.given = reason? := by
  rcases h with ⟨-, hg, -⟩ | ⟨quiet, last, hdue, -⟩
  · exact hg
  · rw [(isIdle_iff.1 hi).1] at hdue
    simp at hdue

/-- The task performs the next effect, which calls no handler if it gives the reason. -/
theorem Fits.carry {x : Channel.Effect} {rest : List Channel.Effect} {calling : Option Event}
    {given reason? : Option DisconnectReason} (h : Fits ⟨x :: rest, none, given⟩ reason?)
    (hcalling : x.given?.isSome = true → calling = none) :
    Fits ⟨rest, calling, x.given?.or given⟩ reason? := by
  rcases h with ⟨hquiet, hgiven, hidle⟩ | ⟨quiet, last, hdue, hquiet, hlast, hreason, hgiven⟩
  · have hx : x.given? = none := hquiet x List.mem_cons_self
    have hnone : given = none := by
      cases hg : given with
      | none => rfl
      | some r =>
        have hi := hidle (by simp [hg])
        simp [isIdle] at hi
    refine .inl ⟨fun y hy => hquiet y (List.mem_cons_of_mem _ hy), ?_, ?_⟩
    · rw [hx]
      exact hgiven
    · rw [hx, hnone]
      simp
  · replace hgiven : given = none := hgiven
    cases quiet with
    | nil =>
      obtain ⟨rfl, rfl⟩ : x = last ∧ rest = [] := by simpa using hdue
      refine .inl ⟨by simp, ?_, fun _ => ?_⟩
      · rw [hgiven, hreason, Option.or_none]
      · simp [isIdle, hcalling hlast]
    | cons y quiet =>
      obtain ⟨rfl, rfl⟩ : x = y ∧ rest = quiet ++ [last] := by simpa using hdue
      have hx : x.given? = none := hquiet x List.mem_cons_self
      refine .inr ⟨quiet, last, rfl, fun z hz => hquiet z (List.mem_cons_of_mem _ hz), hlast,
        hreason, ?_⟩
      rw [hx]
      exact hgiven

/-- The handler that the task has called returns. -/
theorem Fits.finish {t : ChannelTask} {reason? : Option DisconnectReason} (h : t.Fits reason?) :
    Fits { t with calling := none } reason? := by
  rcases h with ⟨hquiet, hgiven, hidle⟩ | h
  · refine .inl ⟨hquiet, hgiven, fun hg => ?_⟩
    exact isIdle_iff.2 ⟨(isIdle_iff.1 (hidle hg)).1, rfl⟩
  · exact .inr h

/-- The channel of an idle task goes on. -/
theorem Fits.turn {t : ChannelTask} (h : t.Fits none) (hi : t.isIdle = true) {m : Channel.Move}
    (hm : Channel.Parts m) : Fits { t with due := m.2 } m.1.parted? := by
  have hgiven : t.given = none := h.of_idle hi
  rcases hm with ⟨hquiet, hparted⟩ | ⟨quiet, last, hdue, hquiet, hlast, hparted⟩
  · refine .inl ⟨hquiet, by rw [hparted]; exact hgiven, fun hg => ?_⟩
    simp [hgiven] at hg
  · exact .inr ⟨quiet, last, hdue, hquiet, hlast, hparted, hgiven⟩

end ChannelTask

end Hub

/-! ## Listeners of the event hub -/

namespace HubListener

open Hub (Channel Line Opening)

variable {w : HubListener}

theorem hasOpened_iff : w.hasOpened = true ↔ ∃ pending, w.opening = some (.opened pending) := by
  unfold hasOpened
  split
  · next pending ho => simp [ho]
  · next hne => simpa using hne

/-- `Turns w e n l effects`: the channel `n` begins or takes an input, is then where `l` says,
and its task has to perform the effects. -/
inductive Turns (w : HubListener) : Event → Nat → Line → List Channel.Effect → Prop where
  | began {n : Nat} {now : Instant} {l : Line} (hl : w.lines[n]? = some l)
      (hbegan : l.began = none) :
      Turns w (.began n now) n { l with began := some now }
        (Channel.begin w.options now l.pending).2
  | took {n : Nat} {now : Instant} {input : Channel.Input} {l : Line} {c : Channel}
      (hl : w.lines[n]? = some l) (hc : l.channel? w.options = some c)
      (hadmits : admits l input = true) :
      Turns w (.took n now input) n { l with taken := l.taken ++ [(now, input)] }
        (c.step w.options now input).2

theorem turns_of_turning? {e : Event} {n : Nat} {l : Line} {effects : List Channel.Effect}
    (h : w.turning? e = some (n, l, effects)) : Turns w e n l effects := by
  cases e with
  | began k now =>
    simp only [turning?] at h
    split at h
    · next l₀ hl₀ =>
      split at h
      · cases h
      · next hbegan =>
        cases h
        exact .began hl₀ (by simpa using hbegan)
    · cases h
  | took k now input =>
    simp only [turning?] at h
    split at h
    · next l₀ hl₀ =>
      split at h
      · next c hc =>
        split at h
        · next hadmits =>
          cases h
          exact .took hl₀ hc hadmits
        · cases h
      · cases h
    · cases h
  | _ => simp [turning?] at h

/-- What comes of a channel that begins or takes an input. -/
theorem turning?_spec {e : Event} {n : Nat} {l : Line} {effects : List Channel.Effect}
    (hlines : ∀ l ∈ w.lines, l.Orderly) (h : w.turning? e = some (n, l, effects)) :
    w.transport e = w.move n l effects ∧ l.Orderly ∧
      ∃ l₀, w.lines[n]? = some l₀ ∧
        ((l₀.reason? w.options = none ∧
            ∃ c : Channel, Channel.Parts (c, effects) ∧ l.reason? w.options = c.parted?) ∨
          (effects = [] ∧ l.reason? w.options = l₀.reason? w.options)) := by
  cases turns_of_turning? h with
  | @began n now l₀ hl₀ hbegan =>
    have hl := hlines l₀ (List.mem_of_getElem? hl₀)
    refine ⟨?_, fun h => (nomatch h), l₀, hl₀, .inl ⟨?_, _, Channel.parts_begin _, ?_⟩⟩
    · simp [transport, hl₀, hbegan]
    · simp [Line.reason?_eq, Line.channel?, hbegan]
    · rw [Line.reason?_eq, Line.channel?_began hl hbegan]
      rfl
  | @took n now input l₀ c hl₀ hc hadmits =>
    have hnow : l₀.reason? w.options = c.parted? := by
      rw [Line.reason?_eq, hc]
      rfl
    have hnext : Line.reason? w.options { l₀ with taken := l₀.taken ++ [(now, input)] } =
        (c.step w.options now input).1.parted? := by
      rw [Line.reason?_eq, Line.channel?_took hc now input]
      rfl
    refine ⟨?_, ?_, l₀, hl₀, ?_⟩
    · simp [transport, hl₀, hc, hadmits]
    · intro hbegan
      simp [Line.channel?, show l₀.began = none from hbegan] at hc
    · cases hparted : c.parted? with
      | none => exact .inl ⟨hnow.trans hparted, _, Channel.parts_step hparted input, hnext⟩
      | some reason =>
        rw [Channel.step_of_parted hparted] at hnext ⊢
        exact .inr ⟨rfl, hnext.trans hnow.symm⟩

/-- A channel that cannot begin or take an input stays where it is. -/
theorem transport_of_turning?_eq_none {e : Event} (h : w.turning? e = none)
    (he : (∃ n now, e = .began n now) ∨ ∃ n now input, e = .took n now input) :
    w.transport e = w := by
  rcases he with ⟨n, now, rfl⟩ | ⟨n, now, input, rfl⟩
  · simp only [turning?] at h
    split at h
    · next l hl =>
      split at h
      · next hb => simp [transport, hl, hb]
      · cases h
    · next hl => simp [transport, hl]
  · simp only [turning?] at h
    split at h
    · next l hl =>
      split at h
      · next c hc =>
        split at h
        · cases h
        · next ha => simp [transport, hl, hc, ha]
      · next hc => simp [transport, hl, hc]
    · next hl => simp [transport, hl]

/-- `SameLines w w'`: the channels of `w'` are those of `w`, and have come as far. -/
structure SameLines (w w' : HubListener) : Prop where
  options : w'.options = w.options
  length : w'.lines.length = w.lines.length
  reason : ∀ n, w'.reason? n = w.reason? n
  orderly : (∀ l ∈ w.lines, l.Orderly) → ∀ l ∈ w'.lines, l.Orderly

theorem SameLines.refl (w : HubListener) : SameLines w w := ⟨rfl, rfl, fun _ => rfl, id⟩

theorem SameLines.of_eq {w' : HubListener} (ho : w'.options = w.options)
    (hl : w'.lines = w.lines) : SameLines w w' :=
  ⟨ho, by rw [hl], fun n => by simp [reason?, ho, hl], fun h => by rwa [hl]⟩

theorem SameLines.trans {w' w'' : HubListener} (h : SameLines w w') (h' : SameLines w' w'') :
    SameLines w w'' :=
  ⟨h'.options.trans h.options, h'.length.trans h.length,
    fun n => (h'.reason n).trans (h.reason n), fun hl => h'.orderly (h.orderly hl)⟩

/-- What the listener does leaves its channels alone, but for asking one to close. -/
theorem sameLines_act (w : HubListener) (effect : Listener.Effect) : SameLines w (w.act effect) := by
  cases effect with
  | close k =>
    refine ⟨rfl, by simp [act], fun n => ?_, fun h l hl => ?_⟩
    · simp only [act, reason?, List.getElem?_modify]
      cases w.lines[n]? with
      | none => rfl
      | some l => by_cases hk : k = n <;> simp [hk, Line.reason?, Line.channel?]
    · obtain ⟨n, hn⟩ := List.mem_iff_getElem?.1 hl
      simp only [act, List.getElem?_modify] at hn
      obtain ⟨l₀, hl₀, rfl⟩ := Option.map_eq_some_iff.1 hn
      have horderly := h l₀ (List.mem_of_getElem? hl₀)
      by_cases hk : k = n
      · rw [if_pos hk]
        exact horderly
      · rw [if_neg hk]
        exact horderly
  | _ => exact .of_eq rfl rfl

/-- What happens leaves the channels alone, but for one that opens, begins or takes an
input. -/
theorem sameLines_transport {e : Event} (hturn : w.turning? e = none)
    (hopened : e = .opened → w.hasOpened = false) :
    SameLines w (w.transport e) ∧ (w.transport e).listener = w.listener ∧
      ((w.transport e).opening.isSome = true → w.opening.isSome = true) := by
  cases e with
  | opening input =>
    refine ⟨.of_eq rfl rfl, rfl, fun h => ?_⟩
    simpa [transport] using h
  | opened =>
    have hnot := hopened rfl
    simp only [transport]
    split
    · next ho => simp [hasOpened, ho] at hnot
    · exact ⟨.of_eq rfl rfl, rfl, fun h => by cases h⟩
    · exact ⟨.refl w, rfl, id⟩
  | began n now =>
    rw [transport_of_turning?_eq_none hturn (.inl ⟨n, now, rfl⟩)]
    exact ⟨.refl w, rfl, id⟩
  | took n now input =>
    rw [transport_of_turning?_eq_none hturn (.inr ⟨n, now, input, rfl⟩)]
    exact ⟨.refl w, rfl, id⟩
  | subscribe op => exact ⟨.of_eq rfl rfl, rfl, id⟩
  | _ => exact ⟨.refl w, rfl, id⟩

/-- A handler is called only by a task that delivers. -/
theorem called?_eq_none_of_given {x : Channel.Effect} (h : x.given?.isSome = true) :
    w.called? x = none := by
  cases x <;> first | rfl | cases h

/-- Handlers leave the listener, its channels and its openings alone. -/
theorem deliver_keeps (w : HubListener) (x : Channel.Effect) :
    SameLines w (w.deliver x) ∧ (w.deliver x).listener = w.listener ∧
      (w.deliver x).opening = w.opening := by
  cases x <;> exact ⟨.of_eq rfl rfl, rfl, rfl⟩

/-- What the listener does begins and ends openings. -/
theorem opening_act (w : HubListener) (effect : Listener.Effect) :
    (w.act effect).opening.isSome = Listener.opensAfter w.opening.isSome [effect] := by
  cases effect <;> rfl

/-- What the listener hears, and what it does about its channels and openings. -/
theorem tell_keeps (w : HubListener) (g : Listener.Glance) (i : Listener.Input) :
    (w.tell g i).listener = (w.listener.step g i).1 ∧ SameLines w (w.tell g i) ∧
      (w.tell g i).opening.isSome =
        Listener.opensAfter w.opening.isSome (w.listener.step g i).2 := by
  have hacts : ∀ (effects : List Listener.Effect) (w : HubListener),
      (effects.foldl act w).observed = w.observed ∧ SameLines w (effects.foldl act w) ∧
        (effects.foldl act w).opening.isSome = Listener.opensAfter w.opening.isSome effects := by
    intro effects
    induction effects with
    | nil => exact fun w => ⟨rfl, .refl w, rfl⟩
    | cons effect rest ih =>
      intro w
      obtain ⟨hobserved, hlines, hopening⟩ := ih (w.act effect)
      refine ⟨?_, (sameLines_act w effect).trans hlines, ?_⟩
      · exact hobserved.trans (by cases effect <;> rfl)
      · rw [List.foldl_cons, hopening, opening_act]
        exact (Listener.opensAfter_append w.opening.isSome [effect] rest).symm
  obtain ⟨hobserved, hlines, hopening⟩ :=
    hacts (w.listener.step g i).2 { w with observed := w.observed.step g i }
  have hsame : SameLines w { w with observed := w.observed.step g i } := .of_eq rfl rfl
  refine ⟨?_, hsame.trans hlines, hopening⟩
  have hlistener := congrArg Observed.listener hobserved
  exact hlistener.trans (Observed.listener_step w.observed g i)

end HubListener

end Appliance
