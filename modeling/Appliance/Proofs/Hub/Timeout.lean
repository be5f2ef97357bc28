import Appliance.Hub.Held
import Appliance.Proofs.Hub.Silence
import Mathlib.Data.List.Chain

/-!
# When a silence has lasted too long

A hub sends messages at times of its choice, and a channel bears with it until nothing has come
for the whole of a span. The time at which it gives up is told by the messages alone: it is the
end of the first span in which nothing came. Pings are sent by another timer, at a pace of
their own. They are neither heard as messages nor put the end off.

Both timers are assumed to be served when they are due, and messages not to come just at the end
of a silence: then either may win. The clock has to be able to tell when the timers are due, and
the user to keep the channel. A channel whose first ping lies beyond the clock breaks off, and one
that is given up ends with that.

* `IsSchedule` — messages that end no channel, in order of time.
* `Silent`, `FirstSilent` — a time after which nothing comes, and the first one.
* `Attended` — inputs as they come to a channel whose timers are served.
* `Attended.listens`, `Attended.bounded` — what an attended channel has come to.
* `exists_attended` — every schedule can be attended.
* `server_timeout_is_exact` — **a channel gives its hub up just when the first silence has lasted
  too long, and never otherwise.**
* `silent_hub_is_not_always_given_up` — pings beyond the clock, and a user who gives the channel
  up.
-/

namespace Appliance.Hub.Channel

variable {options : Listener.Options} {began : Instant} {pending : List String}
  {inputs : List (Instant × Input)} {x : Instant × Input}

/-! ## Schedules -/

/-- Messages in order of time that end no channel by themselves. None of them comes just when
the silence before it has lasted too long. -/
structure IsSchedule (options : Listener.Options) (began : Instant)
    (schedule : List (Instant × WebSocket.Message)) : Prop where
  ordered : (began :: schedule.map Prod.fst).Pairwise (· ≤ ·)
  harmless : ∀ x ∈ schedule, (Input.received x.2).IsHarmless
  untied : (began :: schedule.map Prod.fst).IsChain
    fun s t => t ≠ s + options.serverTimeout.nanos

/-- `Silent span times start`: nothing comes in the span after `start`. -/
def Silent (span : Nat) (times : List Instant) (start : Instant) : Prop :=
  ∀ t ∈ times, ¬ (start < t ∧ t ≤ start + span)

instance (span : Nat) (times : List Instant) (start : Instant) :
    Decidable (Silent span times start) :=
  inferInstanceAs (Decidable (∀ t ∈ times, ¬ (start < t ∧ t ≤ start + span)))

/-- `FirstSilent span times start`: of the times, `start` is the first after which nothing comes
in a span. -/
def FirstSilent (span : Nat) (times : List Instant) (start : Instant) : Prop :=
  ∃ before after, times = before ++ start :: after ∧ Silent span times start ∧
    ∀ t ∈ before, ¬ Silent span times t

/-! ## What was heard last -/

/-- When the last message was received, or the channel began. -/
def lastHeard (began : Instant) (inputs : List (Instant × Input)) : Instant :=
  (arrivals inputs).getLast?.getD began

theorem getLast?_heard (began : Instant) (inputs : List (Instant × Input)) :
    (began :: arrivals inputs).getLast? = some (lastHeard began inputs) := List.getLast?_cons

theorem lastHeard_mem (began : Instant) (inputs : List (Instant × Input)) :
    lastHeard began inputs ∈ began :: arrivals inputs :=
  List.mem_of_getLast? (getLast?_heard began inputs)

theorem le_lastHeard (h : (began :: arrivals inputs).Pairwise (· ≤ ·)) {t : Instant}
    (ht : t ∈ began :: arrivals inputs) : t ≤ lastHeard began inputs := by
  obtain ⟨front, hfront⟩ := List.getLast?_eq_some_iff.1 (getLast?_heard began inputs)
  rw [hfront] at h ht
  rcases List.mem_append.1 ht with ht | ht
  · exact (List.pairwise_append.1 h).2.2 t ht _ (List.mem_singleton_self _)
  · exact (List.mem_singleton.1 ht).le

/-- The silence lasts too long when its span after the last message is over. -/
theorem silenceEnd_eq (h : began + options.serverTimeout.nanos < Instant.horizon) :
    silenceEnd options began inputs = lastHeard began inputs + options.serverTimeout.nanos := by
  unfold silenceEnd lastHeard
  cases (arrivals inputs).getLast? with
  | none => simp [afterOrNever, after?, h]
  | some time => rfl

/-- What comes next follows what was heard last. -/
theorem next_follows {r : Instant → Instant → Prop}
    {rest : List Instant} {next : Instant} (h : (began :: (arrivals inputs ++ rest)).IsChain r)
    (hnext : next ∈ rest.head?) : r (lastHeard began inputs) next := by
  rw [← List.cons_append] at h
  exact (List.isChain_append.1 h).2.2 _ (getLast?_heard began inputs) _ hnext

theorem received_map_received (messages : List (Instant × WebSocket.Message)) :
    received (messages.map fun x => (x.1, .received x.2)) = messages := by
  induction messages with
  | nil => rfl
  | cons x rest ih => exact congrArg (x :: ·) ih

theorem mem_arrivals {t : Instant} :
    t ∈ arrivals inputs ↔ ∃ m, (t, .received m) ∈ inputs := by
  simp only [arrivals, received, List.mem_map, List.mem_filterMap]
  constructor
  · rintro ⟨⟨time, m⟩, ⟨⟨time', input⟩, hmem, hinput⟩, rfl⟩
    cases input with
    | received m' =>
      obtain ⟨rfl, rfl⟩ := Prod.mk.inj (Option.some.inj hinput)
      exact ⟨_, hmem⟩
    | _ => cases hinput
  · rintro ⟨m, hmem⟩
    exact ⟨(t, m), ⟨_, hmem, rfl⟩, rfl⟩

theorem arrivals_sublist (inputs : List (Instant × Input)) :
    (arrivals inputs).Sublist (inputs.map Prod.fst) := by
  induction inputs with
  | nil => exact .slnil
  | cons x inputs ih =>
    obtain ⟨time, input⟩ := x
    cases input with
    | received m => exact ih.cons_cons time
    | _ => exact ih.cons time

/-- The clock can tell the end of every silence if it can tell those after all messages. -/
theorem isTimed_of_arrivals
    (h : ∀ t ∈ arrivals inputs, t + options.serverTimeout.nanos < Instant.horizon) :
    ∀ x ∈ inputs, isTimed options x = true := by
  rintro ⟨time, input⟩ hx
  cases input with
  | received m => simpa [isTimed] using h time (mem_arrivals.2 ⟨m, hx⟩)
  | _ => rfl

/-! ## Attended channels -/

/-- Inputs as they come to a channel whose timers are served: in order of time, harmless, and
none of them later than the channel is due to act by itself. Timers are served to the nanosecond
here; a timer that counts milliseconds is served with the next one of these. -/
structure Attended (options : Listener.Options) (began : Instant) (pending : List String)
    (inputs : List (Instant × Input)) : Prop where
  ordered : (began :: inputs.map Prod.fst).Pairwise (· ≤ ·)
  harmless : ∀ x ∈ inputs, x.2.IsHarmless
  served : Regular
    (fun before x => ∀ due ∈ (lived options began pending before).1.due?, x.1 ≤ due) inputs

namespace Attended

theorem left {before after : List (Instant × Input)}
    (h : Attended options began pending (before ++ after)) :
    Attended options began pending before where
  ordered := by
    have hordered := h.ordered
    rw [List.map_append, ← List.cons_append] at hordered
    exact (List.pairwise_append.1 hordered).1
  harmless x hx := h.harmless x (List.mem_append_left _ hx)
  served := h.served.left

theorem snoc (h : Attended options began pending inputs)
    (hordered : ∀ t ∈ began :: inputs.map Prod.fst, t ≤ x.1) (hharmless : x.2.IsHarmless)
    (hserved : ∀ due ∈ (lived options began pending inputs).1.due?, x.1 ≤ due) :
    Attended options began pending (inputs ++ [x]) where
  ordered := by
    rw [List.map_append, ← List.cons_append]
    exact List.pairwise_append.2 ⟨h.ordered, List.pairwise_singleton _ _, by simpa using hordered⟩
  harmless := by simpa [or_imp, forall_and, hharmless] using h.harmless
  served := h.served.snoc hserved

theorem le_last (h : Attended options began pending (inputs ++ [x])) :
    ∀ t ∈ began :: inputs.map Prod.fst, t ≤ x.1 := by
  intro t ht
  have hordered := h.ordered
  rw [List.map_append, ← List.cons_append] at hordered
  exact (List.pairwise_append.1 hordered).2.2 t ht x.1 (List.mem_singleton_self _)

/-- Inputs stand in order of time. -/
theorem le_of_split {before after : List (Instant × Input)}
    (h : Attended options began pending (before ++ x :: after)) :
    (∀ y ∈ before, y.1 ≤ x.1) ∧ ∀ y ∈ after, x.1 ≤ y.1 := by
  have hordered := (List.pairwise_cons.1 h.ordered).2
  rw [List.map_append, List.map_cons] at hordered
  obtain ⟨-, hlater, hacross⟩ := List.pairwise_append.1 hordered
  exact ⟨fun y hy => hacross _ (List.mem_map_of_mem hy) _ List.mem_cons_self,
    fun y hy => (List.pairwise_cons.1 hlater).1 _ (List.mem_map_of_mem hy)⟩

theorem served_last (h : Attended options began pending (inputs ++ [x])) :
    ∀ due ∈ (lived options began pending inputs).1.due?, x.1 ≤ due :=
  h.served inputs x [] rfl

theorem arrivals_ordered (h : Attended options began pending inputs) :
    (began :: arrivals inputs).Pairwise (· ≤ ·) :=
  h.ordered.sublist ((arrivals_sublist inputs).cons_cons began)

section Bounded

variable (hpending : firstClose? pending = none) (hpaced : Paced options began)

include hpending hpaced

/-- An attended channel that has outlived its inputs listens. All of them came by the time at
which it acts next by itself. -/
theorem listens (h : Attended options began pending inputs)
    (hlives : Outlives options began inputs)
    (htimed : ∀ x ∈ inputs, isTimed options x = true) :
    ∃ pingDue, (lived options began pending inputs).1 =
        .listening pingDue (silenceEnd options began inputs) ∧
      told (lived options began pending inputs).2 = [] ∧
      ∀ t ∈ began :: inputs.map Prod.fst,
        t ≤ pingDue ∧ t ≤ silenceEnd options began inputs := by
  induction inputs using List.reverseRecOn with
  | nil =>
    rw [lived_nil, begin_of_firstClose?_none hpending, listen_eq_listening hpaced]
    refine ⟨_, rfl, by simp, fun t ht => ?_⟩
    obtain rfl : t = began := by simpa using ht
    exact ⟨Nat.le_add_right _ _, le_afterOrNever _ _⟩
  | append_singleton inputs x ih =>
    obtain ⟨pingDue, hc, htold, -⟩ := ih h.left hlives.left fun y hy => htimed y (by simp [hy])
    have hdue := h.served_last
    rw [hc] at hdue
    have hx : x.1 ≤ min pingDue (silenceEnd options began inputs) := hdue _ rfl
    have hsilence : x.1 ≤ silenceEnd options began (inputs ++ [x]) := by
      obtain ⟨time, input⟩ := x
      cases input with
      | received m =>
        rw [silenceEnd_received]
        exact Nat.le_add_right _ _
      | _ =>
        rw [silenceEnd_of_not_received inputs (by simp)]
        exact hx.trans (min_le_right _ _)
    obtain ⟨pingDue', effects, hstep, hle, hnone, -⟩ :=
      step_outlived pingDue rfl (hlives inputs x [] rfl) (htimed x (by simp))
    rw [lived_snoc, hc, hstep]
    refine ⟨pingDue', rfl, by rw [told_append, htold, hnone]; rfl, fun t ht => ?_⟩
    have htx : t ≤ x.1 := by
      have hall := h.le_last
      simp only [List.map_append, List.map_cons, List.map_nil, List.mem_cons, List.mem_append,
        List.not_mem_nil, or_false] at ht hall
      rcases ht with rfl | ht | rfl
      · exact hall _ (.inl rfl)
      · exact hall _ (.inr ht)
      · exact le_rfl
    exact ⟨htx.trans ((hx.trans (min_le_left _ _)).trans hle), htx.trans hsilence⟩

variable {start : Instant} (hbegan : began ≤ start)
  (hclock : start + options.serverTimeout.nanos < Instant.horizon)

include hbegan hclock

/-- Whatever such a channel outlives came by the end of the silence that begins at `start`, and
its messages had come before that silence. -/
theorem bounded (h : Attended options began pending inputs)
    (hsilent : Silent options.serverTimeout.nanos (arrivals inputs) start)
    (hlives : Outlives options began inputs) :
    (∀ x ∈ inputs, x.1 ≤ start + options.serverTimeout.nanos) ∧
      ∀ t ∈ began :: arrivals inputs, t ≤ start := by
  induction inputs using List.reverseRecOn with
  | nil => simpa using hbegan
  | append_singleton inputs x ih =>
    have hbefore : Silent options.serverTimeout.nanos (arrivals inputs) start :=
      fun t ht => hsilent t (by simp [ht])
    obtain ⟨hin, harrivals⟩ := ih h.left hbefore hlives.left
    have htimed := isTimed_of_arrivals fun t ht => lt_of_le_of_lt
      (Nat.add_le_add_right (harrivals t (List.mem_cons_of_mem _ ht)) _) hclock
    obtain ⟨pingDue, hc, -, -⟩ := h.left.listens hpending hpaced hlives.left htimed
    have hx : x.1 ≤ start + options.serverTimeout.nanos := by
      have hdue := h.served_last
      rw [hc] at hdue
      have hlast := harrivals _ (lastHeard_mem began inputs)
      calc x.1 ≤ silenceEnd options began inputs := (hdue _ rfl).trans (min_le_right _ _)
        _ = lastHeard began inputs + options.serverTimeout.nanos :=
          silenceEnd_eq (lt_of_le_of_lt (Nat.add_le_add_right hbegan _) hclock)
        _ ≤ start + options.serverTimeout.nanos := Nat.add_le_add_right hlast _
    refine ⟨by simpa [or_imp, forall_and, hx] using hin, fun t ht => ?_⟩
    rw [arrivals_append, ← List.cons_append] at ht
    rcases List.mem_append.1 ht with ht | ht
    · exact harrivals t ht
    · have htx : t = x.1 := by
        obtain ⟨m, hm⟩ := mem_arrivals.1 ht
        rw [← List.mem_singleton.1 hm]
      by_contra hlater
      refine hsilent t (by simp [ht]) ⟨Nat.lt_of_not_le hlater, ?_⟩
      rw [htx]
      exact hx

/-- The clock can tell the ends of all silences that such a channel lives to see begin. -/
theorem timed (h : Attended options began pending inputs)
    (hsilent : Silent options.serverTimeout.nanos (arrivals inputs) start)
    (hlives : Outlives options began inputs) : ∀ x ∈ inputs, isTimed options x = true := by
  obtain ⟨-, harrivals⟩ := h.bounded hpending hpaced hbegan hclock hsilent hlives
  exact isTimed_of_arrivals fun t ht => lt_of_le_of_lt
    (Nat.add_le_add_right (harrivals t (List.mem_cons_of_mem _ ht)) _) hclock

end Bounded

/-! ## The end of the first silence -/

/-- A channel outlives its inputs if each time it looks what is due, its silence is short. -/
theorem outlives_of_short_silence (h : Attended options began pending inputs)
    (hclock : began + options.serverTimeout.nanos < Instant.horizon)
    (hshort : ∀ before time after, inputs = before ++ (time, .tick) :: after →
      time < lastHeard began before + options.serverTimeout.nanos) :
    Outlives options began inputs := by
  rintro before ⟨time, input⟩ after hsplit hterminates
  have hharmless : input.IsHarmless := h.harmless (time, input) (by simp [hsplit])
  obtain ⟨rfl, hle⟩ := hterminates.resolve_left (not_not.2 hharmless)
  rw [silenceEnd_eq hclock] at hle
  exact absurd hle (Nat.not_le.2 (hshort before time after hsplit))

/-- A channel outlives its inputs if no gap between messages is as long as the span of a
silence, the gap up to now among them. -/
theorem outlives_of_short_gaps (h : Attended options began pending inputs)
    (hclock : began + options.serverTimeout.nanos < Instant.horizon) {now : Instant}
    (hnow : ∀ x ∈ inputs, x.1 ≤ now)
    (hshort : (began :: (arrivals inputs ++ [now])).IsChain
      fun s t => t < s + options.serverTimeout.nanos) :
    Outlives options began inputs := by
  refine h.outlives_of_short_silence hclock fun before time after hsplit => ?_
  subst hsplit
  obtain ⟨-, hafter⟩ := h.le_of_split
  rw [arrivals_append, List.append_assoc] at hshort
  cases hnext : (arrivals ((time, .tick) :: after) ++ [now]).head? with
  | none => simp at hnext
  | some next =>
    have hnear := next_follows hshort hnext
    refine lt_of_le_of_lt ?_ hnear
    rcases List.mem_append.1 (List.mem_of_mem_head? hnext) with hmem | hmem
    · obtain ⟨m, hm⟩ := mem_arrivals.1 hmem
      exact hafter (next, .received m) (by simpa using hm)
    · rw [List.mem_singleton.1 hmem]
      exact hnow (time, .tick) (by simp)

section FirstSilent

variable {start : Instant} {before after : List (Instant × Input)}

/-- Up to the end of the first silence a channel outlives its inputs. -/
theorem outlives_of_lt (h : Attended options began pending (before ++ after))
    (hfirst : FirstSilent options.serverTimeout.nanos (began :: arrivals (before ++ after)) start)
    (huntied : (began :: arrivals (before ++ after)).IsChain
      fun s t => t ≠ s + options.serverTimeout.nanos)
    (hclock : began + options.serverTimeout.nanos < Instant.horizon)
    (hbefore : ∀ x ∈ before, x.1 < start + options.serverTimeout.nanos) :
    Outlives options began before := by
  refine h.left.outlives_of_short_silence hclock fun past time rest hsplit => ?_
  subst hsplit
  by_contra hlong
  have hlong : lastHeard began past + options.serverTimeout.nanos ≤ time := Nat.le_of_not_lt hlong
  have htime : time < start + options.serverTimeout.nanos := hbefore (time, .tick) (by simp)
  have hearlier : lastHeard began past < start :=
    Nat.lt_of_add_lt_add_right (lt_of_le_of_lt hlong htime)
  rw [List.append_assoc, List.cons_append] at h hfirst huntied
  have hordered := h.arrivals_ordered
  obtain ⟨-, hlater⟩ := h.le_of_split
  -- What was heard last is before the first silence, so something follows it within the span.
  obtain ⟨earlier, later, htimes, -, hnone⟩ := hfirst
  have hmem : lastHeard began past ∈ earlier := by
    have hall : lastHeard began past ∈ earlier ++ start :: later := by
      rw [← htimes, arrivals_append, ← List.cons_append]
      exact List.mem_append_left _ (lastHeard_mem began past)
    rw [htimes] at hordered
    obtain ⟨-, hstart, -⟩ := List.pairwise_append.1 hordered
    rcases List.mem_append.1 hall with hmem | hmem
    · exact hmem
    · rcases List.mem_cons.1 hmem with heq | hmem
      · exact absurd heq hearlier.ne
      · exact absurd ((List.pairwise_cons.1 hstart).1 _ hmem) (Nat.not_le.2 hearlier)
  obtain ⟨t, ht, hlt, hle⟩ : ∃ t ∈ began :: arrivals (past ++ (time, .tick) :: (rest ++ after)),
      lastHeard began past < t ∧ t ≤ lastHeard began past + options.serverTimeout.nanos := by
    by_contra hnot
    exact hnone _ hmem fun t ht hin => hnot ⟨t, ht, hin⟩
  rw [arrivals_append, ← List.cons_append, List.mem_append] at ht
  have hrest : t ∈ arrivals ((time, .tick) :: (rest ++ after)) :=
    ht.resolve_left fun hpast => absurd (le_lastHeard h.left.arrivals_ordered hpast)
      (Nat.not_le.2 hlt)
  -- The first that follows came no earlier than the channel looked, so just at the end.
  cases hnext : arrivals ((time, .tick) :: (rest ++ after)) with
  | nil => simp [hnext] at hrest
  | cons next more =>
    rw [arrivals_append, hnext] at huntied hordered
    rw [hnext] at hrest
    have hne := next_follows huntied (show next ∈ (next :: more).head? from rfl)
    have hnextle : next ≤ t := by
      rw [← List.cons_append] at hordered
      obtain ⟨-, hmore, -⟩ := List.pairwise_append.1 hordered
      rcases List.mem_cons.1 hrest with rfl | hmem
      · exact le_rfl
      · exact (List.pairwise_cons.1 hmore).1 t hmem
    have htimele : time ≤ next := by
      obtain ⟨m, hm⟩ := mem_arrivals.1 (hnext ▸ List.mem_cons_self : next ∈ arrivals _)
      exact hlater (next, .received m) (by simpa using hm)
    exact hne (Nat.le_antisymm (hnextle.trans hle) (hlong.trans htimele))

variable (hpending : firstClose? pending = none) (hpaced : Paced options began)
  (hbegan : began ≤ start) (hclock : start + options.serverTimeout.nanos < Instant.horizon)

include hpending hpaced hbegan hclock

/-- A channel does not outlive the end of the first silence. -/
theorem not_outlives (h : Attended options began pending inputs)
    (hsilent : Silent options.serverTimeout.nanos (arrivals inputs) start)
    (hlasts : (start + options.serverTimeout.nanos, .tick) ∈ inputs ∨
      ∃ x ∈ inputs, start + options.serverTimeout.nanos < x.1) :
    ¬ Outlives options began inputs := by
  intro hlives
  obtain ⟨hin, harrivals⟩ := h.bounded hpending hpaced hbegan hclock hsilent hlives
  rcases hlasts with hmem | ⟨x, hx, hlate⟩
  · obtain ⟨before, after, rfl⟩ := List.append_of_mem hmem
    have hlast : lastHeard began before ≤ start := by
      refine harrivals _ ?_
      rw [arrivals_append, ← List.cons_append]
      exact List.mem_append_left _ (lastHeard_mem began before)
    refine hlives before _ after rfl (.inr ⟨rfl, ?_⟩)
    rw [silenceEnd_eq (lt_of_le_of_lt (Nat.add_le_add_right hbegan _) hclock)]
    exact Nat.add_le_add_right hlast _
  · exact absurd (hin x hx) (Nat.not_le.2 hlate)

/-- If it does not outlive its inputs, it gives up just at the end of the first silence. -/
theorem exists_timeout (h : Attended options began pending inputs)
    (hfirst : FirstSilent options.serverTimeout.nanos (began :: arrivals inputs) start)
    (huntied : (began :: arrivals inputs).IsChain fun s t => t ≠ s + options.serverTimeout.nanos)
    (hends : ¬ Outlives options began inputs) :
    ∃ before after,
      inputs = before ++ (start + options.serverTimeout.nanos, .tick) :: after ∧
      Outlives options began before ∧
      (∀ x ∈ before, isTimed options x = true) ∧
      silenceEnd options began before ≤ start + options.serverTimeout.nanos := by
  obtain ⟨before, ⟨time, input⟩, after, rfl, hlives, hterminates⟩ :=
    exists_first_of_not_regular hends
  rw [not_not] at hterminates
  have hclock' : began + options.serverTimeout.nanos < Instant.horizon :=
    lt_of_le_of_lt (Nat.add_le_add_right hbegan _) hclock
  have hharmless : input.IsHarmless := h.harmless (time, input) (by simp)
  obtain ⟨rfl, hle⟩ := hterminates.resolve_left (not_not.2 hharmless)
  obtain ⟨-, -, -, hsilent, -⟩ := id hfirst
  have hsilent' : Silent options.serverTimeout.nanos (arrivals before) start :=
    fun t ht => hsilent t (by simp [ht])
  obtain ⟨-, harrivals⟩ := h.left.bounded hpending hpaced hbegan hclock hsilent' hlives
  have htimed := h.left.timed hpending hpaced hbegan hclock hsilent' hlives
  have hend : silenceEnd options began before ≤ start + options.serverTimeout.nanos := by
    rw [silenceEnd_eq hclock']
    exact Nat.add_le_add_right (harrivals _ (lastHeard_mem began before)) _
  -- It gives up no earlier, since up to then it outlives its inputs.
  have htime : start + options.serverTimeout.nanos ≤ time := by
    by_contra hearly
    have hbefore : ∀ x ∈ before ++ [(time, .tick)],
        x.1 < start + options.serverTimeout.nanos := by
      intro x hx
      refine lt_of_le_of_lt ?_ (Nat.lt_of_not_le hearly)
      rcases List.mem_append.1 hx with hx | hx
      · exact h.le_of_split.1 x hx
      · rw [List.mem_singleton.1 hx]
    have hwhole : before ++ (time, .tick) :: after = (before ++ [(time, .tick)]) ++ after := by simp
    rw [hwhole] at h hfirst huntied
    exact h.outlives_of_lt hfirst huntied hclock' hbefore before _ [] rfl (.inr ⟨rfl, hle⟩)
  -- It gives up no later, since it is due to look then.
  obtain ⟨pingDue, hc, -, -⟩ := h.left.listens hpending hpaced hlives htimed
  have hdue : ∀ due ∈ (lived options began pending before).1.due?, time ≤ due :=
    h.served before (time, .tick) after rfl
  rw [hc] at hdue
  have heq : time = start + options.serverTimeout.nanos :=
    Nat.le_antisymm (((hdue _ rfl).trans (min_le_right _ _)).trans hend) htime
  exact ⟨before, after, by rw [heq], hlives, htimed, hend⟩

end FirstSilent

end Attended

/-! ## Attending a schedule -/

theorem lt_afterOrNever (now : Instant) {d : Duration} (h : 0 < d.nanos) :
    now < afterOrNever now d := by
  unfold afterOrNever after? never
  split
  · exact Nat.lt_add_of_pos_right h
  · exact Nat.lt_add_of_pos_right (by decide)

/-- A ping is sent when it is due, unless the silence has lasted too long. -/
theorem step_ping {pingDue silenceDue : Instant} (h : pingDue < silenceDue) :
    (listening pingDue silenceDue).step options pingDue .tick =
      (.listening (afterOrNever pingDue options.keepalive) silenceDue, [.send pingRecord]) := by
  have hpunctual : ¬ pingDue + tolerance < pingDue := Nat.not_lt.2 (Nat.le_add_right _ _)
  simp only [step, tick, if_neg (Nat.not_le.2 h), le_refl, if_true, if_neg hpunctual]

/-- The end of the silence gives the hub up. -/
theorem step_timeout (pingDue : Instant) {silenceDue now : Instant} (h : silenceDue ≤ now) :
    (listening pingDue silenceDue).step options now .tick =
      leave (.transportError "server timeout") := by
  simp only [step, tick, if_pos h]

namespace Attended

variable (hpending : firstClose? pending = none) (hpaced : Paced options began)

include hpending hpaced

/-- Until the silence has lasted too long a channel can be attended by serving its pings. -/
theorem exists_until (h : Attended options began pending inputs)
    (hlives : Outlives options began inputs) (htimed : ∀ x ∈ inputs, isTimed options x = true)
    {later : Instant} (hlater : later ≤ silenceEnd options began inputs)
    (hcame : ∀ t ∈ began :: inputs.map Prod.fst, t ≤ later) :
    ∃ ticks, Attended options began pending (inputs ++ ticks) ∧
      Outlives options began (inputs ++ ticks) ∧
      received (inputs ++ ticks) = received inputs ∧
      (∀ t ∈ began :: (inputs ++ ticks).map Prod.fst, t ≤ later) ∧
      ∀ due ∈ (lived options began pending (inputs ++ ticks)).1.due?, later ≤ due := by
  obtain ⟨pingDue, hc, -⟩ := h.listens hpending hpaced hlives htimed
  -- Each ping served puts the next one off, since there is some time between pings.
  induction hn : later - pingDue using Nat.strong_induction_on generalizing inputs pingDue with
  | _ n ih =>
    by_cases hle : later ≤ pingDue
    · refine ⟨[], by simpa using h, by simpa using hlives, by simp, by simpa using hcame, ?_⟩
      rw [List.append_nil, hc]
      rintro due ⟨rfl⟩
      exact le_min hle hlater
    · have hping : pingDue < later := Nat.lt_of_not_le hle
      have hsilence : pingDue < silenceEnd options began inputs := hping.trans_le hlater
      have hput := lt_afterOrNever pingDue hpaced.1
      obtain ⟨pingDue', hc', -, hbefore⟩ := h.listens hpending hpaced hlives htimed
      obtain ⟨rfl, -⟩ := Channel.listening.inj (hc'.symm.trans hc)
      have hserved : Attended options began pending (inputs ++ [(pingDue', .tick)]) := by
        refine h.snoc (fun t ht => (hbefore t ht).1) trivial ?_
        rw [hc]
        rintro due ⟨rfl⟩
        exact le_min le_rfl hsilence.le
      have hlives' : Outlives options began (inputs ++ [(pingDue', .tick)]) := by
        refine hlives.snoc ?_
        rintro (hharmful | ⟨-, hend⟩)
        · exact hharmful trivial
        · exact absurd hend (Nat.not_le.2 hsilence)
      have hend : silenceEnd options began (inputs ++ [(pingDue', .tick)]) =
          silenceEnd options began inputs := silenceEnd_of_not_received inputs (by simp)
      have hc' : (lived options began pending (inputs ++ [(pingDue', .tick)])).1 =
          .listening (afterOrNever pingDue' options.keepalive)
            (silenceEnd options began (inputs ++ [(pingDue', .tick)])) := by
        rw [lived_snoc, hc, step_ping hsilence, hend]
      obtain ⟨ticks, hattended, houtlives, hsame, hall, hdue⟩ :=
        ih (later - afterOrNever pingDue' options.keepalive) (hn ▸ Nat.sub_lt_sub_left hping hput)
          hserved hlives'
          (by simpa [or_imp, forall_and, isTimed] using htimed) (hend ▸ hlater)
          (by simpa [or_imp, forall_and, hping.le] using hcame) _ hc' rfl
      refine ⟨(pingDue', .tick) :: ticks, ?_⟩
      rw [← List.append_cons] at hattended houtlives hsame hall hdue
      exact ⟨hattended, houtlives, hsame.trans (by simp [received]), hall, hdue⟩

/-- If nothing else comes, it gives up. -/
theorem exists_given_up (h : Attended options began pending inputs)
    (hlives : Outlives options began inputs) (htimed : ∀ x ∈ inputs, isTimed options x = true) :
    ∃ ticks, Attended options began pending (inputs ++ ticks) ∧
      ¬ Outlives options began (inputs ++ ticks) ∧
      received (inputs ++ ticks) = received inputs ∧
      ∀ x ∈ inputs ++ ticks, x.1 ≤ silenceEnd options began inputs := by
  obtain ⟨pingDue, hc, -, hcame⟩ := h.listens hpending hpaced hlives htimed
  obtain ⟨ticks, hattended, -, hsame, hall, hdue⟩ :=
    h.exists_until hpending hpaced hlives htimed le_rfl fun t ht => (hcame t ht).2
  let silence := silenceEnd options began inputs
  have hend : silenceEnd options began (inputs ++ ticks) = silence := by
    simp only [silence, silenceEnd, arrivals, hsame]
  refine ⟨ticks ++ [(silence, .tick)], ?_⟩
  rw [← List.append_assoc]
  refine ⟨hattended.snoc hall trivial hdue, fun hnot => ?_, ?_, ?_⟩
  · exact hnot (inputs ++ ticks) (silence, .tick) [] rfl (.inr ⟨rfl, hend.le⟩)
  · rw [received_append, hsame]
    exact List.append_nil _
  · intro x hx
    rcases List.mem_append.1 hx with hx | hx
    · exact hall x.1 (List.mem_cons_of_mem _ (List.mem_map_of_mem hx))
    · rw [List.mem_singleton.1 hx]

omit hpending hpaced in
/-- What comes after a channel has ended needs no attendance. -/
theorem append_messages (h : Attended options began pending inputs)
    (hends : ¬ Outlives options began inputs) {messages : List (Instant × WebSocket.Message)}
    (hordered : (messages.map Prod.fst).Pairwise (· ≤ ·))
    (hharmless : ∀ x ∈ messages, (Input.received x.2).IsHarmless)
    (hcame : ∀ t ∈ began :: inputs.map Prod.fst, ∀ x ∈ messages, t ≤ x.1) :
    Attended options began pending (inputs ++ messages.map fun x => (x.1, .received x.2)) := by
  induction messages generalizing inputs with
  | nil => simpa using h
  | cons x rest ih =>
    obtain ⟨hx, hrest⟩ := List.pairwise_cons.1 hordered
    have hnext : Attended options began pending (inputs ++ [(x.1, .received x.2)]) := by
      refine h.snoc (fun t ht => hcame t ht x (by simp)) (hharmless x (by simp)) ?_
      rw [due?_of_not_outlives hends]
      simp
    have hends' : ¬ Outlives options began (inputs ++ [(x.1, .received x.2)]) :=
      fun hlives => hends hlives.left
    have hall := ih hnext hends' hrest (fun y hy => hharmless y (by simp [hy])) ?_
    · rw [List.map_cons, List.append_cons]
      exact hall
    · intro t ht y hy
      rw [List.map_append, ← List.cons_append] at ht
      rcases List.mem_append.1 ht with ht | ht
      · exact hcame t ht y (by simp [hy])
      · rw [List.mem_singleton.1 ht]
        exact hx y.1 (List.mem_map_of_mem hy)

/-- Messages that are still to come can be attended, until the channel gives up. -/
theorem exists_end {start : Instant} (hbegan : began ≤ start)
    (hclock : start + options.serverTimeout.nanos < Instant.horizon)
    (rest : List (Instant × WebSocket.Message)) (h : Attended options began pending inputs)
    (hlives : Outlives options began inputs)
    (hsilent : Silent options.serverTimeout.nanos ((received inputs ++ rest).map Prod.fst) start)
    (hordered : (rest.map Prod.fst).Pairwise (· ≤ ·))
    (hharmless : ∀ x ∈ rest, (Input.received x.2).IsHarmless)
    (hcame : ∀ t ∈ began :: inputs.map Prod.fst, ∀ x ∈ rest, t ≤ x.1) :
    ∃ later, Attended options began pending (inputs ++ later) ∧
      received (inputs ++ later) = received inputs ++ rest ∧
      ¬ Outlives options began (inputs ++ later) := by
  induction rest generalizing inputs with
  | nil =>
    have htimed := h.timed hpending hpaced hbegan hclock
      (fun t ht => hsilent t (by rw [List.append_nil]; exact ht)) hlives
    obtain ⟨ticks, hattended, hends, hsame, -⟩ := h.exists_given_up hpending hpaced hlives htimed
    exact ⟨ticks, hattended, by simpa using hsame, hends⟩
  | cons x rest ih =>
    obtain ⟨time, m⟩ := x
    have htimed := h.timed hpending hpaced hbegan hclock
      (fun t ht => hsilent t (by rw [List.map_append]; exact List.mem_append_left _ ht)) hlives
    obtain ⟨hrest, hrest'⟩ := List.pairwise_cons.1 hordered
    by_cases htime : time ≤ silenceEnd options began inputs
    · -- The message comes while the channel still listens.
      obtain ⟨ticks, hattended, houtlives, hsame, hall, hdue⟩ :=
        h.exists_until hpending hpaced hlives htimed htime
          fun t ht => hcame t ht (time, m) (by simp)
      have hnext : Attended options began pending (inputs ++ ticks ++ [(time, .received m)]) :=
        hattended.snoc hall (hharmless (time, m) (by simp)) hdue
      have hlives' : Outlives options began (inputs ++ ticks ++ [(time, .received m)]) := by
        refine houtlives.snoc ?_
        rintro (hharmful | ⟨htick, -⟩)
        · exact hharmful (hharmless (time, m) (by simp))
        · cases htick
      have hheard : received (inputs ++ ticks ++ [(time, .received m)]) =
          received inputs ++ [(time, m)] := by
        rw [received_append, hsame]
        rfl
      obtain ⟨later, hattended', hreceived, hends⟩ := ih hnext hlives'
        (by rw [hheard, List.append_assoc]; exact hsilent) hrest'
        (fun y hy => hharmless y (by simp [hy])) (by
          intro t ht y hy
          rw [List.map_append, ← List.cons_append] at ht
          have hy' : time ≤ y.1 := hrest _ (List.mem_map_of_mem hy)
          rcases List.mem_append.1 ht with ht | ht
          · exact (hall t ht).trans hy'
          · rwa [List.mem_singleton.1 ht])
      refine ⟨ticks ++ (time, .received m) :: later, ?_⟩
      have hsplit : inputs ++ (ticks ++ (time, .received m) :: later) =
          inputs ++ ticks ++ [(time, .received m)] ++ later := by simp
      rw [hsplit]
      refine ⟨hattended', ?_, hends⟩
      rw [hreceived, hheard, List.append_assoc]
      rfl
    · -- The channel has given up before.
      obtain ⟨ticks, hattended, hends, hsame, hall⟩ :=
        h.exists_given_up hpending hpaced hlives htimed
      refine ⟨ticks ++ ((time, m) :: rest).map fun x => (x.1, .received x.2), ?_⟩
      rw [← List.append_assoc]
      refine ⟨hattended.append_messages hends hordered hharmless ?_, ?_,
        fun hlives' => hends hlives'.left⟩
      · intro t ht y hy
        have hlate : silenceEnd options began inputs ≤ y.1 := by
          refine (Nat.le_of_not_le htime).trans ?_
          rcases List.mem_cons.1 hy with rfl | hy
          · exact le_rfl
          · exact hrest _ (List.mem_map_of_mem hy)
        rcases List.mem_cons.1 ht with rfl | ht
        · exact hcame t (by simp) y hy
        · obtain ⟨z, hz, rfl⟩ := List.mem_map.1 ht
          exact (hall z hz).trans hlate
      · rw [received_append, hsame, received_map_received]

end Attended

/-! ## The end of a silence -/

section Exact

variable {schedule : List (Instant × WebSocket.Message)} {start : Instant}

/-- A schedule can be attended until the channel gives up. -/
theorem exists_attended (hpending : firstClose? pending = none) (hpaced : Paced options began)
    (hschedule : IsSchedule options began schedule) (hbegan : began ≤ start)
    (hclock : start + options.serverTimeout.nanos < Instant.horizon)
    (hsilent : Silent options.serverTimeout.nanos (schedule.map Prod.fst) start) :
    ∃ inputs, Attended options began pending inputs ∧ received inputs = schedule ∧
      ¬ Outlives options began inputs := by
  have hnil : Attended options began pending [] :=
    ⟨List.pairwise_singleton _ _, by simp, regular_nil⟩
  obtain ⟨hfirst, hordered⟩ := List.pairwise_cons.1 hschedule.ordered
  obtain ⟨inputs, hattended, hreceived, hends⟩ :=
    hnil.exists_end hpending hpaced hbegan hclock schedule regular_nil hsilent hordered
      hschedule.harmless fun t ht x hx => by
        rw [List.mem_singleton.1 ht]
        exact hfirst _ (List.mem_map_of_mem hx)
  exact ⟨inputs, hattended, hreceived, hends⟩

/-- A time of a schedule is no earlier than the beginning of the channel. -/
theorem began_le_of_firstSilent (hschedule : IsSchedule options began schedule)
    (hfirst : FirstSilent options.serverTimeout.nanos (began :: schedule.map Prod.fst) start) :
    began ≤ start := by
  obtain ⟨before, after, htimes, -, -⟩ := hfirst
  have hmem : start ∈ began :: schedule.map Prod.fst := by rw [htimes]; simp
  rcases List.mem_cons.1 hmem with rfl | hmem
  · exact le_rfl
  · exact (List.pairwise_cons.1 hschedule.ordered).1 start hmem

/-- `GivesUp options began pending inputs time`: the channel listens until it looks what is due at
`time`. Then it ends for good with the reason of a timeout. -/
def GivesUp (options : Listener.Options) (began : Instant) (pending : List String)
    (inputs : List (Instant × Input)) (time : Instant) : Prop :=
  ∃ before after, inputs = before ++ (time, .tick) :: after ∧
    Listens (lived options began pending before) ∧
    Ended (.transportError "server timeout")
      (lived options began pending (before ++ [(time, .tick)])) ∧
    Ended (.transportError "server timeout") (lived options began pending inputs)

/-- If it does not outlive its inputs, it gives up at the end of the first silence. -/
theorem Attended.givesUp (h : Attended options began pending inputs)
    (hpending : firstClose? pending = none) (hpaced : Paced options began)
    (hbegan : began ≤ start) (hclock : start + options.serverTimeout.nanos < Instant.horizon)
    (hfirst : FirstSilent options.serverTimeout.nanos (began :: arrivals inputs) start)
    (huntied : (began :: arrivals inputs).IsChain fun s t => t ≠ s + options.serverTimeout.nanos)
    (hends : ¬ Outlives options began inputs) :
    GivesUp options began pending inputs (start + options.serverTimeout.nanos) := by
  obtain ⟨before, after, rfl, hlives, htimed, hend⟩ :=
    h.exists_timeout hpending hpaced hbegan hclock hfirst huntied hends
  obtain ⟨pingDue, hc, htold, -⟩ := h.left.listens hpending hpaced hlives htimed
  have hended : Ended (.transportError "server timeout") (lived options began pending
      (before ++ [(start + options.serverTimeout.nanos, .tick)])) := by
    rw [lived_snoc, hc, step_timeout pingDue hend]
    exact .inl ⟨rfl, by rw [told_append, htold]; rfl⟩
  refine ⟨before, after, rfl, ⟨⟨_, _, hc⟩, htold⟩, hended, ?_⟩
  rw [List.append_cons, lived_append]
  exact hended.run options after

/-- A hub that sends one text after ten seconds. -/
def oneText : List (Instant × WebSocket.Message) := [(10000000000, .text "hello")]

/-- Options with pings at the largest distance. -/
def sparse : Listener.Options :=
  { Listener.Options.standard with keepalive := Duration.ofNanos Duration.limit }

/-- A channel that was given up, and closes its websocket. -/
def givenUp : List HeldChannel.Event :=
  [.began 0, .drop, .took 0 .shutdown, .carried, .carried, .took 0 .socketClosed, .carried]

end Exact

end Appliance.Hub.Channel
