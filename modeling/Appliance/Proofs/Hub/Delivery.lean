import Appliance.Hub.Transcript
import Appliance.Proofs.Hub.Ending
import Mathlib.Data.List.TakeWhile

/-!
# What records deliver

A channel handles the records of each frame as they stand. This file shows that the frames
leave no mark: what a channel delivers, and how it ends, is told by the row of all its
records. It is the clock that can get between. A channel cannot begin to listen if its
pings cannot be scheduled, and a message does not count if the silence after it cannot be
told.

* `eventsBeforeClose`, `firstClose?` — what a row of records delivers, and how it ends.
* `handle_eq` — records are handled by these.
* `Channel.Paced`, `Channel.isTimed` — the clock can tell what a channel needs.
* `Channel.Calm` — inputs without a close, a failure or a timeout.
* `Channel.follows_run` — **a channel that listens follows the row of its records.**
* `Channel.follows_begin` — the same from its beginning.
-/

namespace Appliance.Hub

/-! ## Rows of records -/

/-- The reason with which a record ends a channel, if it is a close record. -/
def closing? (record : String) : Option DisconnectReason :=
  match Message.ofRecord? record with
  | some (.close error allowReconnect) => some (closeReason error allowReconnect)
  | _ => none

/-- The events of a record, if it is an invocation. -/
def recordEvents (record : String) : List Event :=
  match Message.ofRecord? record with
  | some (.invocation _ events) => events
  | _ => []

/-- The events of the records before the first close record, in order. -/
def eventsBeforeClose (records : List String) : List Event :=
  (records.takeWhile fun r => (closing? r).isNone).flatMap recordEvents

/-- The reason of the first close record. -/
def firstClose? (records : List String) : Option DisconnectReason := records.findSome? closing?

theorem eventsBeforeClose_cons (record : String) (rest : List String) :
    eventsBeforeClose (record :: rest) =
      if (closing? record).isNone then recordEvents record ++ eventsBeforeClose rest else [] := by
  rw [eventsBeforeClose, List.takeWhile_cons]
  split <;> rfl

/-- Records are handled one by one up to the first close record. -/
theorem handle_eq (records : List String) :
    handle records = (eventsBeforeClose records, firstClose? records) := by
  induction records with
  | nil => rfl
  | cons record rest ih =>
    rw [handle, eventsBeforeClose_cons, firstClose?, List.findSome?_cons, ih]
    cases h : Message.ofRecord? record with
    | none => simp [closing?, recordEvents, h, firstClose?]
    | some m => cases m <;> simp [closing?, recordEvents, h, firstClose?]

@[simp] theorem firstClose?_append (as bs : List String) :
    firstClose? (as ++ bs) = (firstClose? as).or (firstClose? bs) := List.findSome?_append

/-- Nothing after a close record counts. -/
theorem eventsBeforeClose_append_of_some {as : List String} {r : DisconnectReason}
    (h : firstClose? as = some r) (bs : List String) :
    eventsBeforeClose (as ++ bs) = eventsBeforeClose as := by
  induction as with
  | nil => simp [firstClose?] at h
  | cons record as ih =>
    rw [List.cons_append, eventsBeforeClose_cons, eventsBeforeClose_cons]
    cases hc : closing? record with
    | some r => rfl
    | none =>
      rw [firstClose?, List.findSome?_cons, hc] at h
      rw [ih h]

theorem eventsBeforeClose_append_of_none {as : List String} (h : firstClose? as = none)
    (bs : List String) :
    eventsBeforeClose (as ++ bs) = eventsBeforeClose as ++ eventsBeforeClose bs := by
  have has : ∀ r ∈ as, (closing? r).isNone = true := by
    simpa [firstClose?, List.findSome?_eq_none_iff] using h
  rw [eventsBeforeClose, List.takeWhile_append_of_pos has, List.flatMap_append,
    eventsBeforeClose, List.takeWhile_eq_self_iff.2 has]
  rfl

/-- A record that cannot be read leaves no mark. -/
theorem unreadable_leaves_no_mark {r : String} (h : Message.ofRecord? r = none)
    (before after : List String) :
    eventsBeforeClose (before ++ r :: after) = eventsBeforeClose (before ++ after) ∧
      firstClose? (before ++ r :: after) = firstClose? (before ++ after) := by
  have hr : closing? r = none := by simp [closing?, h]
  have hafter : eventsBeforeClose (r :: after) = eventsBeforeClose after := by
    rw [eventsBeforeClose_cons, hr]
    simp [recordEvents, h]
  have hclosing : firstClose? (r :: after) = firstClose? after := by
    rw [firstClose?, List.findSome?_cons, hr]
    rfl
  constructor
  · cases hclose : firstClose? before with
    | some reason =>
      rw [eventsBeforeClose_append_of_some hclose, eventsBeforeClose_append_of_some hclose]
    | none =>
      rw [eventsBeforeClose_append_of_none hclose, eventsBeforeClose_append_of_none hclose, hafter]
  · rw [firstClose?_append, firstClose?_append, hclosing]

namespace Channel

variable {options : Listener.Options} {now : Instant}

/-! ## Effects -/

/-- The events among effects, in order. -/
def delivered (effects : List Effect) : List Event :=
  effects.filterMap fun
    | .deliver e => some e
    | _ => none

/-- The reasons that the channel's user gets. It gets one as well for a channel that breaks
off. -/
def told (effects : List Effect) : List DisconnectReason :=
  effects.filterMap fun
    | .notify reason => some reason
    | .breakOff => some .dropped
    | _ => none

@[simp] theorem delivered_append (as bs : List Effect) :
    delivered (as ++ bs) = delivered as ++ delivered bs := List.filterMap_append

@[simp] theorem told_append (as bs : List Effect) : told (as ++ bs) = told as ++ told bs :=
  List.filterMap_append

@[simp] theorem delivered_map_deliver (events : List Event) :
    delivered (events.map .deliver) = events := by
  rw [delivered, List.filterMap_map]
  exact List.filterMap_some

@[simp] theorem told_map_deliver (events : List Event) : told (events.map .deliver) = [] := by
  simp [told]

/-! ## The clock -/

/-- `Paced options now`: pings can be scheduled from `now` on. -/
def Paced (options : Listener.Options) (now : Instant) : Prop :=
  0 < options.keepalive.nanos ∧ now + options.keepalive.nanos < Instant.horizon

instance (options : Listener.Options) (now : Instant) : Decidable (Paced options now) :=
  inferInstanceAs (Decidable (_ ∧ _))

/-- Whether the end of the silence after an input can be told, should it be a message. -/
def isTimed (options : Listener.Options) (x : Instant × Input) : Bool :=
  match x.2 with
  | .received _ => decide (x.1 + options.serverTimeout.nanos < Instant.horizon)
  | _ => true

/-- A channel that begins to listen waits for its first ping and the end of the first silence. -/
theorem listen_eq_listening (h : Paced options now) :
    listen options now = (.listening (now + options.keepalive.nanos)
      (afterOrNever now options.serverTimeout), []) := by
  rw [listen, after?, if_pos h.2]
  simp [Nat.ne_of_gt h.1]

theorem listen_of_paced (h : Paced options now) :
    ∃ pingDue silenceDue, listen options now = (.listening pingDue silenceDue, []) :=
  ⟨_, _, listen_eq_listening h⟩

theorem listen_of_not_paced (h : ¬ Paced options now) : listen options now = breaking := by
  unfold listen after?
  split
  · rfl
  · rename_i hsome
    split at hsome
    · rename_i hlt
      exact if_pos (Nat.eq_zero_of_not_pos fun hpos => h ⟨hpos, hlt⟩)
    · cases hsome

/-! ## Inputs without a disturbance -/

/-- `Quiet c now input`: `input` is a message other than a close, or time has passed and the
silence of the channel `c` does not last too long. -/
def Quiet (c : Channel) (now : Instant) : Input → Prop
  | .received (.close _) => False
  | .received _ => True
  | .tick => ∀ pingDue silenceDue, c = .listening pingDue silenceDue → now < silenceDue
  | _ => False

/-- `Calm options c inputs`: the channel `c` takes `inputs`, and none of them is the user's
close, a close of the websocket, a failure or a timeout. -/
def Calm (options : Listener.Options) : Channel → List (Instant × Input) → Prop
  | _, [] => True
  | c, x :: rest => Quiet c x.1 x.2 ∧ Calm options (c.step options x.1 x.2).1 rest

theorem run_append (c : Channel) (as bs : List (Instant × Input)) :
    c.run options (as ++ bs) =
      (((c.run options as).1.run options bs).1,
        (c.run options as).2 ++ ((c.run options as).1.run options bs).2) := by
  induction as generalizing c with
  | nil => rfl
  | cons x as ih =>
    simp only [List.cons_append, run, ih, List.append_assoc]

/-- A channel that leaves takes nothing but the end of its websocket. -/
theorem run_leaving {r : DisconnectReason} {inputs : List (Instant × Input)}
    (h : Calm options (.leaving r) inputs) :
    run options (.leaving r) inputs = (.leaving r, []) := by
  induction inputs with
  | nil => rfl
  | cons x rest ih =>
    obtain ⟨time, input⟩ := x
    obtain ⟨hquiet, hrest⟩ := h
    cases input with
    | received m | tick =>
      simp only [step] at hrest
      simp only [run, step, ih hrest, List.append_nil]
    | _ => exact hquiet.elim

theorem run_broken (inputs : List (Instant × Input)) :
    run options .broken inputs = (.broken, []) := by
  induction inputs with
  | nil => rfl
  | cons x rest ih =>
    obtain ⟨time, input⟩ := x
    cases input <;> simp only [run, step, ih, List.append_nil]

/-! ## Following records -/

/-- `Follows m records goesOn`: the move `m` does what the row `records` asks for. After it,
if no close record has ended the channel, it listens in case it `goesOn`, and has broken
off otherwise. -/
structure Follows (m : Move) (records : List String) (goesOn : Prop) : Prop where
  events : delivered m.2 = eventsBeforeClose records
  leaves : ∀ r, firstClose? records = some r → m.1 = .leaving r ∧ told m.2 = []
  listens : firstClose? records = none → goesOn →
    (∃ pingDue silenceDue, m.1 = .listening pingDue silenceDue) ∧ told m.2 = []
  breaks : firstClose? records = none → ¬ goesOn → m.1 = .broken ∧ told m.2 = [.dropped]

/-- A channel that listens and does nothing follows an empty row. -/
theorem follows_nil (pingDue silenceDue : Instant) :
    Follows (.listening pingDue silenceDue, []) [] True where
  events := rfl
  leaves := by simp [firstClose?]
  listens _ _ := ⟨⟨pingDue, silenceDue, rfl⟩, rfl⟩
  breaks _ h := absurd trivial h

/-- A channel that has broken off follows an empty row, but does not go on. -/
theorem follows_breaking : Follows breaking [] False where
  events := rfl
  leaves := by simp [firstClose?]
  listens _ h := h.elim
  breaks _ _ := ⟨rfl, rfl⟩

/-- A channel handles some records, and then goes on with a row unless it leaves. -/
theorem Follows.append {m : Move} {first later : List String} {goesOn : Prop}
    (hleaves : ∀ r, firstClose? first = some r →
      m = (.leaving r, (eventsBeforeClose first).map .deliver ++ [.closeSocket]))
    (hstays : firstClose? first = none → ∃ rest, Follows rest later goesOn ∧
      m = (rest.1, (eventsBeforeClose first).map .deliver ++ rest.2)) :
    Follows m (first ++ later) goesOn := by
  cases hfirst : firstClose? first with
  | some r =>
    rw [hleaves r hfirst]
    exact {
      events := by
        rw [eventsBeforeClose_append_of_some hfirst, delivered_append, delivered_map_deliver]
        exact List.append_nil _
      leaves := by
        intro r' hr'
        rw [firstClose?_append, hfirst] at hr'
        exact ⟨by rw [← Option.some.inj hr'], by rw [told_append, told_map_deliver]; rfl⟩
      listens := by simp [hfirst]
      breaks := by simp [hfirst] }
  | none =>
    obtain ⟨rest, hrest, rfl⟩ := hstays hfirst
    have hclose : firstClose? (first ++ later) = firstClose? later := by simp [hfirst]
    exact {
      events := by simp [eventsBeforeClose_append_of_none hfirst, hrest.events]
      leaves := by simpa [hclose] using hrest.leaves
      listens := by simpa [hclose] using hrest.listens
      breaks := by simpa [hclose] using hrest.breaks }

/-- What is due, but for the silence, does not count. -/
theorem tick_of_lt (options : Listener.Options) (pingDue : Instant) {silenceDue : Instant}
    (h : now < silenceDue) : ∃ pingDue' effects, tick options now pingDue silenceDue =
      (.listening pingDue' silenceDue, effects) ∧ delivered effects = [] ∧ told effects = [] := by
  unfold tick
  rw [if_neg (Nat.not_le.2 h)]
  split <;> exact ⟨_, _, rfl, rfl, rfl⟩

/-- A message other than a close is handled by its records. -/
theorem receive_eq {stays : Channel} {m : WebSocket.Message} (h : ∀ notice, m ≠ .close notice) :
    receive stays m = settle stays (handle (Input.received m).records) := by
  cases m with
  | close notice => exact absurd rfl (h notice)
  | _ => rfl

section Step

variable {pingDue silenceDue : Instant} {inputs : List (Instant × Input)} {later : List String}
  {goesOn : Prop}

/-- The time that passes without a timeout adds no record to the row. -/
theorem follows_tick (hcalm : Calm options (.listening pingDue silenceDue) ((now, .tick) :: inputs))
    (hrest : ∀ p s, Calm options (.listening p s) inputs →
      Follows (run options (.listening p s) inputs) later goesOn) :
    Follows (run options (.listening pingDue silenceDue) ((now, .tick) :: inputs)) later
      goesOn := by
  obtain ⟨hquiet, hcalm⟩ := hcalm
  obtain ⟨pingDue', effects, htick, hdelivered, htold⟩ :=
    tick_of_lt options pingDue (hquiet pingDue silenceDue rfl)
  simp only [step, htick] at hcalm
  have hfollows := hrest pingDue' silenceDue hcalm
  simp only [run, step, htick]
  exact {
    events := by rw [delivered_append, hdelivered, List.nil_append, hfollows.events]
    leaves := by simpa [htold] using hfollows.leaves
    listens := by simpa [htold] using hfollows.listens
    breaks := by simpa [htold] using hfollows.breaks }

/-- A message in time adds its records to the row. -/
theorem follows_received {m : WebSocket.Message}
    (hcalm : Calm options (.listening pingDue silenceDue) ((now, .received m) :: inputs))
    (htime : now + options.serverTimeout.nanos < Instant.horizon)
    (hrest : ∀ p s, Calm options (.listening p s) inputs →
      Follows (run options (.listening p s) inputs) later goesOn) :
    Follows (run options (.listening pingDue silenceDue) ((now, .received m) :: inputs))
      ((Input.received m).records ++ later) goesOn := by
  obtain ⟨hquiet, hcalm⟩ := hcalm
  have hm : ∀ notice, m ≠ .close notice := by
    rintro notice rfl
    exact hquiet
  have hstep : (listening pingDue silenceDue).step options now (.received m) =
      settle (.listening pingDue (now + options.serverTimeout.nanos))
        (handle (Input.received m).records) := by
    simp only [step, after?, if_pos htime, receive_eq hm]
  simp only [run, hstep, handle_eq, settle] at hcalm ⊢
  refine Follows.append (fun r hr => ?_) fun hnone => ?_
  · simp only [hr, leave] at hcalm ⊢
    rw [run_leaving hcalm, List.append_nil]
  · simp only [hnone] at hcalm ⊢
    exact ⟨_, hrest _ _ hcalm, rfl⟩

/-- A message after which the end of the silence cannot be told breaks the channel off. -/
theorem run_untimed {m : WebSocket.Message}
    (htime : ¬ now + options.serverTimeout.nanos < Instant.horizon) :
    run options (.listening pingDue silenceDue) ((now, .received m) :: inputs) = breaking := by
  simp only [run, step, after?, if_neg htime, breaking, run_broken, List.append_nil]

end Step

/-- The records that a channel which listens comes to before the clock fails it. -/
def heard (options : Listener.Options) (inputs : List (Instant × Input)) : List String :=
  recordsIn (inputs.takeWhile (isTimed options))

/-- **A channel that listens follows the row of its records.** It breaks off at the first
message after which the end of the silence cannot be told. -/
theorem follows_run {pingDue silenceDue : Instant} {inputs : List (Instant × Input)}
    (h : Calm options (.listening pingDue silenceDue) inputs) :
    Follows (run options (.listening pingDue silenceDue) inputs) (heard options inputs)
      (∀ x ∈ inputs, isTimed options x = true) := by
  induction inputs generalizing pingDue silenceDue with
  | nil => simpa [heard, recordsIn, run] using follows_nil pingDue silenceDue
  | cons x rest ih =>
    obtain ⟨time, input⟩ := x
    cases input with
    | tick =>
      have hheard : heard options ((time, .tick) :: rest) = heard options rest := rfl
      rw [hheard]
      simpa [isTimed] using follows_tick h fun _ _ => ih
    | received m =>
      by_cases htime : time + options.serverTimeout.nanos < Instant.horizon
      · simpa [heard, recordsIn, isTimed, htime] using follows_received h htime fun _ _ => ih
      · rw [run_untimed htime]
        simpa [heard, recordsIn, isTimed, htime] using follows_breaking
    | _ => exact h.1.elim

/-- A channel follows, from its beginning, the records that came with the hub's answer and
the row of those after them. -/
theorem follows_begin {pending : List String} {inputs : List (Instant × Input)}
    (h : Calm options (begin options now pending).1 inputs) :
    Follows (((begin options now pending).1.run options inputs).1,
        (begin options now pending).2 ++ ((begin options now pending).1.run options inputs).2)
      (pending ++ if Paced options now then heard options inputs else [])
      (Paced options now ∧ ∀ x ∈ inputs, isTimed options x = true) := by
  simp only [begin, handle_eq] at h ⊢
  refine Follows.append (fun r hr => ?_) fun hnone => ?_
  · simp only [hr, leave] at h ⊢
    rw [run_leaving h, List.append_nil]
  · simp only [hnone] at h ⊢
    by_cases hpaced : Paced options now
    · obtain ⟨pingDue, silenceDue, hlisten⟩ := listen_of_paced hpaced
      rw [hlisten] at h ⊢
      refine ⟨run options (.listening pingDue silenceDue) inputs, ?_, by rw [List.append_nil]⟩
      simpa [hpaced] using follows_run h
    · rw [listen_of_not_paced hpaced] at h ⊢
      refine ⟨breaking, ?_, ?_⟩
      · simpa [hpaced] using follows_breaking
      · simp only [breaking, run_broken, List.append_nil]

end Channel

end Appliance.Hub
