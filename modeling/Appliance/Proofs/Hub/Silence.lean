import Appliance.Proofs.Histories
import Appliance.Proofs.Hub.Delivery

/-!
# How a channel lives on

A channel that listens bears the silence of its hub for a while, and what it receives ends the
silence and begins the next one. This file says what a channel outlives, for every row of
inputs whatever: then it still listens, and the end of the silence is told by the message that
came last. Otherwise it has ended and gives its reason, or the clock has failed it.

* `lived` — what a channel does from its beginning on.
* `arrivals`, `silenceEnd` — when messages were received, and when a silence has lasted too long.
* `Terminates`, `Outlives` — what ends a channel that listens, and rows of inputs without it.
* `Stalls` — the clock cannot tell what a channel needs that has not ended before.
* `Standing`, `standing` — **where a channel stands after any row of inputs.**
-/

namespace Appliance.Hub.Channel

variable {options : Listener.Options} {began : Instant} {pending : List String}
  {inputs : List (Instant × Input)}

/-! ## A channel from its beginning on -/

/-- What a channel does from its beginning on. -/
def lived (options : Listener.Options) (began : Instant) (pending : List String)
    (inputs : List (Instant × Input)) : Move :=
  let (c, effects) := begin options began pending
  let (c, later) := c.run options inputs
  (c, effects ++ later)

theorem lived_nil : lived options began pending [] = begin options began pending := by
  simp only [lived, run, List.append_nil]

theorem lived_append (as bs : List (Instant × Input)) :
    lived options began pending (as ++ bs) =
      (((lived options began pending as).1.run options bs).1,
        (lived options began pending as).2 ++
          ((lived options began pending as).1.run options bs).2) := by
  simp only [lived, run_append, List.append_assoc]

theorem lived_snoc (inputs : List (Instant × Input)) (x : Instant × Input) :
    lived options began pending (inputs ++ [x]) =
      (((lived options began pending inputs).1.step options x.1 x.2).1,
        (lived options began pending inputs).2 ++
          ((lived options began pending inputs).1.step options x.1 x.2).2) := by
  simp only [lived_append, run, List.append_nil]

/-- Records without a close record let the channel begin to listen. -/
theorem begin_of_firstClose?_none (h : firstClose? pending = none) :
    begin options began pending =
      ((listen options began).1,
        (eventsBeforeClose pending).map Effect.deliver ++ (listen options began).2) := by
  simp only [begin, handle_eq, h]

/-- A close record among the first records ends the channel before it listens. -/
theorem begin_of_firstClose?_some {r : DisconnectReason} (h : firstClose? pending = some r) :
    begin options began pending =
      (.leaving r, (eventsBeforeClose pending).map Effect.deliver ++ [.closeSocket]) := by
  simp only [begin, handle_eq, h, leave]

/-! ## Silence -/

/-- The messages among inputs, with the times at which they were received. -/
def received (inputs : List (Instant × Input)) : List (Instant × WebSocket.Message) :=
  inputs.filterMap fun x =>
    match x.2 with
    | .received m => some (x.1, m)
    | _ => none

/-- When messages were received. -/
def arrivals (inputs : List (Instant × Input)) : List Instant := (received inputs).map Prod.fst

@[simp] theorem arrivals_nil : arrivals [] = [] := rfl

@[simp] theorem received_append (as bs : List (Instant × Input)) :
    received (as ++ bs) = received as ++ received bs := List.filterMap_append

@[simp] theorem arrivals_append (as bs : List (Instant × Input)) :
    arrivals (as ++ bs) = arrivals as ++ arrivals bs := by
  simp [arrivals]

@[simp] theorem arrivals_received (time : Instant) (m : WebSocket.Message) :
    arrivals [(time, .received m)] = [time] := rfl

/-- When the silence after inputs has lasted too long. -/
def silenceEnd (options : Listener.Options) (began : Instant) (inputs : List (Instant × Input)) :
    Instant :=
  match (arrivals inputs).getLast? with
  | some time => time + options.serverTimeout.nanos
  | none => afterOrNever began options.serverTimeout

theorem silenceEnd_received (inputs : List (Instant × Input)) (time : Instant)
    (m : WebSocket.Message) :
    silenceEnd options began (inputs ++ [(time, .received m)]) =
      time + options.serverTimeout.nanos := by
  simp [silenceEnd]

/-- What is no message does not end the silence. -/
theorem silenceEnd_of_not_received (inputs : List (Instant × Input)) {x : Instant × Input}
    (hx : ∀ m, x.2 ≠ .received m) :
    silenceEnd options began (inputs ++ [x]) = silenceEnd options began inputs := by
  have hnone : arrivals [x] = [] := by
    obtain ⟨time, input⟩ := x
    cases input with
    | received m => exact absurd rfl (hx m)
    | _ => rfl
  rw [silenceEnd, silenceEnd, arrivals_append, hnone, List.append_nil]

theorem le_afterOrNever (now : Instant) (d : Duration) : now ≤ afterOrNever now d := by
  unfold afterOrNever after? never
  split
  · exact Nat.le_add_right _ _
  · exact Nat.le_add_right _ _

/-! ## What ends a channel -/

/-- `input.IsHarmless`: the input by itself ends no channel. It is a message without a close, or
no message and no failure. -/
def Input.IsHarmless : Input → Prop
  | .received (.text s) => firstClose? (split s) = none
  | .received (.close _) | .failed _ | .ended | .shutdown => False
  | .received _ | .tick | .socketClosed => True

/-- `Terminates options began before x`: the input `x` after the inputs `before` ends a channel
that listens, by itself or because the silence has lasted too long. -/
def Terminates (options : Listener.Options) (began : Instant) (before : List (Instant × Input))
    (x : Instant × Input) : Prop :=
  ¬ x.2.IsHarmless ∨ x.2 = .tick ∧ silenceEnd options began before ≤ x.1

/-- `Outlives options began inputs`: no input ends the channel. -/
def Outlives (options : Listener.Options) (began : Instant) (inputs : List (Instant × Input)) :
    Prop :=
  Regular (fun before x => ¬ Terminates options began before x) inputs

/-- `Stalls options began pending inputs`: the clock cannot tell when the first ping is due or,
at a message that the channel lives to receive, when the silence after it has lasted too
long. -/
def Stalls (options : Listener.Options) (began : Instant) (pending : List String)
    (inputs : List (Instant × Input)) : Prop :=
  firstClose? pending = none ∧ (¬ Paced options began ∨
    ∃ before time m after, inputs = before ++ (time, .received m) :: after ∧
      Outlives options began before ∧
      Instant.horizon ≤ time + options.serverTimeout.nanos)

/-- Where the clock has failed a channel, it has failed it for good. -/
theorem Stalls.snoc (h : Stalls options began pending inputs) (x : Instant × Input) :
    Stalls options began pending (inputs ++ [x]) := by
  obtain ⟨hpending, hunpaced | ⟨before, time, m, after, rfl, hbefore, hlate⟩⟩ := h
  · exact ⟨hpending, .inl hunpaced⟩
  · exact ⟨hpending, .inr ⟨before, time, m, after ++ [x], by simp, hbefore, hlate⟩⟩

/-- One more input is the one at which the clock fails a channel, or it has failed it before. -/
theorem stalls_snoc {x : Instant × Input} (h : Stalls options began pending (inputs ++ [x])) :
    Stalls options began pending inputs ∨
      firstClose? pending = none ∧ Outlives options began inputs ∧ isTimed options x = false := by
  obtain ⟨hpending, hunpaced | ⟨before, time, m, after, hsplit, hbefore, hlate⟩⟩ := h
  · exact .inl ⟨hpending, .inl hunpaced⟩
  · rcases split_snoc hsplit with ⟨rfl, rfl, -⟩ | ⟨after', -, hinputs⟩
    · exact .inr ⟨hpending, hbefore, by simpa [isTimed] using hlate⟩
    · exact .inl ⟨hpending, .inr ⟨before, time, m, after', hinputs, hbefore, hlate⟩⟩

/-- The clock does not fail a channel if it can tell all that is asked of it. -/
theorem not_stalls (hpaced : Paced options began)
    (htimed : ∀ x ∈ inputs, isTimed options x = true) :
    ¬ Stalls options began pending inputs := by
  rintro ⟨-, hunpaced | ⟨before, time, m, after, rfl, -, hlate⟩⟩
  · exact hunpaced hpaced
  · have hintime := htimed (time, .received m) (by simp)
    exact absurd hlate (Nat.not_le.2 (by simpa [isTimed] using hintime))

/-! ## Where a channel stands -/

/-- It listens, and has given no reason. -/
def Listens (m : Move) : Prop := (∃ pingDue silenceDue, m.1 = .listening pingDue silenceDue) ∧
  told m.2 = []

/-- It has ended, and gives its reason when its websocket is closed. -/
def Ended (r : DisconnectReason) (m : Move) : Prop :=
  m.1 = .leaving r ∧ told m.2 = [] ∨ m.1 = .over r ∧ told m.2 = [r]

/-- `Standing options began pending inputs m`: the channel that has done `m` stands where the
inputs tell. -/
inductive Standing (options : Listener.Options) (began : Instant) (pending : List String)
    (inputs : List (Instant × Input)) (m : Move) : Prop where
  /-- It has outlived them. -/
  | listens (pingDue : Instant) (hpending : firstClose? pending = none)
      (hpaced : Paced options began) (houtlives : Outlives options began inputs)
      (htimed : ∀ x ∈ inputs, isTimed options x = true)
      (hc : m.1 = .listening pingDue (silenceEnd options began inputs)) (htold : told m.2 = [])
      (hwhole : .breakOff ∉ m.2)
  /-- It has ended, and gives its reason when its websocket is closed. -/
  | ended (r : DisconnectReason) (hstalls : ¬ Stalls options began pending inputs)
      (hends : firstClose? pending = none → ¬ Outlives options began inputs)
      (hended : Ended r m) (hwhole : .breakOff ∉ m.2)
  /-- The clock has failed it. -/
  | broken (hstalls : Stalls options began pending inputs) (hc : m.1 = .broken)
      (htold : told m.2 = [.dropped]) (hwhole : .breakOff ∈ m.2)

theorem standing_begin : Standing options began pending [] (begin options began pending) := by
  cases hpending : firstClose? pending with
  | some r =>
    rw [begin_of_firstClose?_some hpending]
    refine .ended r (fun h => ?_) (by simp [hpending]) (.inl ⟨rfl, ?_⟩) (by simp)
    · have hnone := h.1
      simp [hpending] at hnone
    · rw [told_append, told_map_deliver]
      rfl
  | none =>
    rw [begin_of_firstClose?_none hpending]
    by_cases hpaced : Paced options began
    · rw [listen_eq_listening hpaced]
      exact .listens _ hpending hpaced regular_nil (by simp) rfl (by simp) (by simp)
    · rw [listen_of_not_paced hpaced]
      exact .broken ⟨hpending, .inl hpaced⟩ rfl (by rw [told_append, told_map_deliver]; rfl)
        (by simp [breaking])

section Step

variable {silenceDue : Instant} {x : Instant × Input}

/-- What a message other than a close delivers, and whether it ends the channel. -/
theorem settle_eq (stays : Channel) (records : List String) :
    settle stays (handle records) =
      match firstClose? records with
      | none => (stays, (eventsBeforeClose records).map .deliver)
      | some r => (.leaving r, (eventsBeforeClose records).map .deliver ++ [.closeSocket]) := by
  rw [handle_eq, settle]
  cases firstClose? records <;> rfl

/-- A channel outlives a harmless input that comes in time. Its next ping is due no earlier than
before. -/
theorem step_outlived (pingDue : Instant) (hs : silenceDue = silenceEnd options began inputs)
    (hx : ¬ Terminates options began inputs x) (htimed : isTimed options x = true) :
    ∃ pingDue' effects, (listening pingDue silenceDue).step options x.1 x.2 =
        (.listening pingDue' (silenceEnd options began (inputs ++ [x])), effects) ∧
      pingDue ≤ pingDue' ∧ told effects = [] ∧ .breakOff ∉ effects := by
  subst hs
  obtain ⟨time, input⟩ := x
  obtain ⟨hharmless, hsilence⟩ := not_or.1 hx
  rw [not_not] at hharmless
  cases input with
  | received m =>
    have htime : time + options.serverTimeout.nanos < Instant.horizon := by
      simpa [isTimed] using htimed
    simp only [step, after?, if_pos htime, silenceEnd_received]
    cases m with
    | text s =>
      rw [receive, settle_eq, show firstClose? (split s) = none from hharmless]
      exact ⟨_, _, rfl, le_rfl, told_map_deliver _, by simp⟩
    | close notice => exact hharmless.elim
    | _ => exact ⟨_, _, rfl, le_rfl, rfl, by simp⟩
  | tick =>
    have hlt : time < silenceEnd options began inputs :=
      Nat.lt_of_not_le fun hle => hsilence ⟨rfl, hle⟩
    rw [silenceEnd_of_not_received inputs (by simp)]
    simp only [step, tick, if_neg (Nat.not_le.2 hlt)]
    split
    · have hbase : pingDue ≤ if pingDue + tolerance < time then time else pingDue := by
        split
        · rename_i hlate
          exact (Nat.le_add_right _ _).trans hlate.le
        · exact le_rfl
      exact ⟨_, _, rfl, hbase.trans (le_afterOrNever _ _), rfl, by simp⟩
    · exact ⟨_, _, rfl, le_rfl, rfl, by simp⟩
  | socketClosed =>
    rw [silenceEnd_of_not_received inputs (by simp)]
    exact ⟨_, _, rfl, le_rfl, rfl, by simp⟩
  | _ => exact hharmless.elim

/-- Any other input that comes in time ends it. -/
theorem step_terminated (pingDue : Instant) (hs : silenceDue = silenceEnd options began inputs)
    (hx : Terminates options began inputs x) (htimed : isTimed options x = true) :
    ∃ r effects, (listening pingDue silenceDue).step options x.1 x.2 = (.leaving r, effects) ∧
      told effects = [] ∧ .breakOff ∉ effects := by
  subst hs
  obtain ⟨time, input⟩ := x
  cases input with
  | received m =>
    have htime : time + options.serverTimeout.nanos < Instant.horizon := by
      simpa [isTimed] using htimed
    have hharmful : ¬ (Input.received m).IsHarmless := hx.resolve_right (by simp)
    simp only [step, after?, if_pos htime]
    cases m with
    | text s =>
      have hclose : firstClose? (split s) ≠ none := hharmful
      obtain ⟨r, hr⟩ := Option.ne_none_iff_exists'.1 hclose
      rw [receive, settle_eq, hr]
      refine ⟨r, _, rfl, ?_, by simp⟩
      rw [told_append, told_map_deliver]
      rfl
    | close notice => exact ⟨_, _, rfl, rfl, by simp⟩
    | _ => exact absurd trivial hharmful
  | tick =>
    obtain ⟨-, hle⟩ := hx.resolve_left (not_not.2 trivial)
    simp only [step, tick, if_pos hle]
    exact ⟨_, _, rfl, rfl, by simp⟩
  | socketClosed => exact absurd hx (by simp [Terminates, Input.IsHarmless])
  | _ => exact ⟨_, _, rfl, rfl, by simp⟩

/-- At a message after which the end of the silence cannot be told the clock fails it. -/
theorem step_untimed (pingDue silenceDue : Instant) (htimed : isTimed options x = false) :
    (∃ m, x.2 = .received m) ∧
      (listening pingDue silenceDue).step options x.1 x.2 = breaking := by
  obtain ⟨time, input⟩ := x
  cases input with
  | received m =>
    have htime : ¬ time + options.serverTimeout.nanos < Instant.horizon := by
      simpa [isTimed] using htimed
    exact ⟨⟨m, rfl⟩, by simp only [step, after?, if_neg htime]⟩
  | _ => simp [isTimed] at htimed

/-- A channel that has ended takes nothing but the end of its websocket, and then gives its
reason. -/
theorem Ended.step {m : Move} {r : DisconnectReason} (h : Ended r m) (options : Listener.Options)
    (now : Instant) (input : Input) :
    Ended r ((m.1.step options now input).1, m.2 ++ (m.1.step options now input).2) ∧
      .breakOff ∉ (m.1.step options now input).2 := by
  obtain ⟨c, effects⟩ := m
  rcases h with ⟨rfl, htold⟩ | ⟨rfl, htold⟩
  · cases input with
    | socketClosed => exact ⟨.inr ⟨rfl, by rw [told_append, htold]; rfl⟩, by simp [Channel.step]⟩
    | _ => exact ⟨.inl ⟨rfl, by rw [told_append, htold]; rfl⟩, by simp [Channel.step]⟩
  · cases input <;> exact ⟨.inr ⟨rfl, by rw [told_append, htold]; rfl⟩, by simp [Channel.step]⟩

/-- When its websocket is closed, a channel that has ended has given its reason. -/
theorem Ended.step_socketClosed {m : Move} {r : DisconnectReason} (h : Ended r m)
    (options : Listener.Options) (now : Instant) :
    (m.1.step options now .socketClosed).1 = .over r ∧
      told (m.2 ++ (m.1.step options now .socketClosed).2) = [r] := by
  obtain ⟨c, effects⟩ := m
  rcases h with ⟨rfl, htold⟩ | ⟨rfl, htold⟩ <;>
    exact ⟨rfl, by rw [told_append, htold]; rfl⟩

/-- It has ended for good. -/
theorem Ended.run {m : Move} {r : DisconnectReason} (h : Ended r m) (options : Listener.Options)
    (inputs : List (Instant × Input)) :
    Ended r ((m.1.run options inputs).1, m.2 ++ (m.1.run options inputs).2) := by
  induction inputs generalizing m with
  | nil => simpa [Channel.run] using h
  | cons x rest ih => simpa [Channel.run] using ih (h.step options x.1 x.2).1

end Step

/-- One more input leads a channel where the inputs tell. -/
theorem Standing.snoc {m : Move} (h : Standing options began pending inputs m)
    (x : Instant × Input) :
    Standing options began pending (inputs ++ [x])
      ((m.1.step options x.1 x.2).1, m.2 ++ (m.1.step options x.1 x.2).2) := by
  cases h with
  | listens pingDue hpending hpaced houtlives htimed hc htold hwhole =>
    rw [hc]
    cases htimedx : isTimed options x with
    | false =>
      obtain ⟨⟨message, hx⟩, hstep⟩ :=
        step_untimed pingDue (silenceEnd options began inputs) htimedx
      have hlate : Instant.horizon ≤ x.1 + options.serverTimeout.nanos := by
        simpa [isTimed, hx] using htimedx
      rw [hstep]
      refine .broken ⟨hpending, .inr ⟨inputs, x.1, message, [], ?_, houtlives, hlate⟩⟩ rfl ?_ ?_
      · rw [← hx]
      · rw [told_append, htold]
        rfl
      · simp [breaking]
    | true =>
      have htimed' : ∀ y ∈ inputs ++ [x], isTimed options y = true := by
        simpa [or_imp, forall_and, htimedx] using htimed
      by_cases hterminates : Terminates options began inputs x
      · obtain ⟨r, effects, hstep, hnone, hkept⟩ :=
          step_terminated pingDue rfl hterminates htimedx
        rw [hstep]
        refine .ended r (not_stalls hpaced htimed') (fun _ hnot => ?_) (.inl ⟨rfl, ?_⟩)
          (by simp [hwhole, hkept])
        · exact hnot inputs x [] rfl hterminates
        · rw [told_append, htold, hnone]
          rfl
      · obtain ⟨pingDue', effects, hstep, -, hnone, hkept⟩ :=
          step_outlived pingDue rfl hterminates htimedx
        rw [hstep]
        refine .listens pingDue' hpending hpaced (houtlives.snoc hterminates) htimed' rfl ?_
          (by simp [hwhole, hkept])
        rw [told_append, htold, hnone]
        rfl
  | ended r hstalls hends hended hwhole =>
    obtain ⟨hnext, hkept⟩ := hended.step options x.1 x.2
    refine .ended r (fun hs => ?_) (fun hpending hlives => ?_) hnext (by simp [hwhole, hkept])
    · rcases stalls_snoc hs with hs | ⟨hpending, houtlives, -⟩
      · exact hstalls hs
      · exact hends hpending houtlives
    · refine hends hpending fun before y after hsplit => hlives before y (after ++ [x]) ?_
      simp [hsplit]
  | broken hstalls hc htold hwhole =>
    rw [hc]
    refine .broken (hstalls.snoc x) ?_ ?_ (by simp [hwhole])
    · cases x.2 <;> rfl
    · rw [told_append, htold]
      cases x.2 <;> rfl

/-- **Where a channel stands after any row of inputs.**  It has outlived them and listens, or it
has ended, or the clock has failed it. -/
theorem standing (options : Listener.Options) (began : Instant) (pending : List String)
    (inputs : List (Instant × Input)) :
    Standing options began pending inputs (lived options began pending inputs) := by
  induction inputs using List.reverseRecOn with
  | nil =>
    rw [lived_nil]
    exact standing_begin
  | append_singleton inputs x ih =>
    rw [lived_snoc]
    exact ih.snoc x

/-- A channel that has outlived its inputs listens, if the clock can tell all that is asked of
it. -/
theorem listens_of_outlives (hpending : firstClose? pending = none)
    (hpaced : Paced options began) (hlives : Outlives options began inputs)
    (htimed : ∀ x ∈ inputs, isTimed options x = true) :
    Listens (lived options began pending inputs) := by
  cases standing options began pending inputs with
  | listens _ _ _ _ _ hc htold => exact ⟨⟨_, _, hc⟩, htold⟩
  | ended r _ hends => exact absurd hlives (hends hpending)
  | broken hstalls => exact absurd hstalls (not_stalls hpaced htimed)

/-- A channel that has outlived its inputs has not ended for any reason of its own. -/
theorem not_ended_of_outlives (hpending : firstClose? pending = none)
    (hlives : Outlives options began inputs) (r : DisconnectReason) :
    ¬ Ended r (lived options began pending inputs) := by
  intro hended
  have hover := hended.imp And.left And.left
  cases standing options began pending inputs with
  | listens _ _ _ _ _ hc => simp [hc] at hover
  | ended _ _ hends => exact hends hpending hlives
  | broken _ hc => simp [hc] at hover

/-- A channel that has not outlived its inputs does nothing more by itself. -/
theorem due?_of_not_outlives (h : ¬ Outlives options began inputs) :
    (lived options began pending inputs).1.due? = none := by
  cases standing options began pending inputs with
  | listens _ _ _ houtlives => exact absurd houtlives h
  | ended r _ _ hended => rcases hended with ⟨hc, -⟩ | ⟨hc, -⟩ <;> rw [hc] <;> rfl
  | broken _ hc => rw [hc]; rfl

end Appliance.Hub.Channel
