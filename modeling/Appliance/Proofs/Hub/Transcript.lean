import Appliance.Hub.Listening
import Appliance.Proofs.Hub.Delivery
import Appliance.Proofs.Hub.Healing
import Appliance.Proofs.Hub.Packing
import Appliance.Proofs.Subscriptions

/-!
# Exact delivery

The events of the invocations up to the first close record are delivered, each once and in
order, and the reason of that close record is given, in whatever frames the records come,
and however the handlers end. There is one way in which the frames do leave a mark: a
channel that has to listen breaks off if the clock cannot tell when its next ping is due,
as with pings at no distance, or when a silence will have lasted too long. Records that
came with the hub's answer are handled before that, and those after it are lost.

* `Transcript.Undisturbed` — the hub's answer completes the handshake, and nothing but
  messages and time follows.
* `Transcript.Breaks` — the clock cannot tell what the channel needs.
* `Transcript.ends` — the three ways in which a transcript leaves a channel.
* `Transcript.serves_happenings` — **the handlers get what the channel delivers.**
* `Transcript.delivery_tells_records` — **what a channel delivers and the reason that it gives
  depend on its records alone, unless the clock breaks it off.**
-/

namespace Appliance

/-! ## Handlers of a channel -/

namespace HubListener

open Hub (Channel Line)

variable {w : HubListener} {n : Nat}

/-- The handlers get the events among the effects of a channel. -/
theorem foldl_deliver_subscriptions (effects : List Channel.Effect) (w : HubListener) :
    (effects.foldl deliver w).subscriptions =
        (w.subscriptions.deliver (Channel.delivered effects)).1 ∧
      (effects.foldl deliver w).traces =
        w.traces ++ (w.subscriptions.deliver (Channel.delivered effects)).2 := by
  induction effects generalizing w with
  | nil => exact ⟨rfl, (List.append_nil _).symm⟩
  | cons effect rest ih =>
    obtain ⟨hs, ht⟩ := ih (w.deliver effect)
    cases effect with
    | deliver e => exact ⟨hs, by rw [List.foldl_cons, ht]; exact List.append_assoc _ _ _⟩
    | _ => exact ⟨hs, ht⟩

/-- `Serves w n l events w'`: on the way from `w` to `w'` the handlers get `events`, and the
channel `n` becomes `l`. -/
structure Serves (w : HubListener) (n : Nat) (l : Line) (events : List Appliance.Event)
    (w' : HubListener) : Prop where
  options : w'.options = w.options
  line : w'.lines[n]? = some l
  subscriptions : w'.subscriptions = (w.subscriptions.deliver events).1
  traces : w'.traces = w.traces ++ (w.subscriptions.deliver events).2

theorem Serves.trans {w' w'' : HubListener} {l l' : Line} {as bs : List Appliance.Event}
    (h : Serves w n l as w') (h' : Serves w' n l' bs w'') : Serves w n l' (as ++ bs) w'' where
  options := h'.options.trans h.options
  line := h'.line
  subscriptions := by rw [h'.subscriptions, h.subscriptions, Subscriptions.deliver_append]
  traces := by
    rw [h'.traces, h.traces, h.subscriptions, Subscriptions.deliver_append, List.append_assoc]

theorem serves_move {l : Line} (hl : w.lines[n]? = some l) (l' : Line)
    (effects : List Channel.Effect) :
    Serves w n l' (Channel.delivered effects) (w.move n l' effects) := by
  have hlt : n < w.lines.length := (List.getElem?_eq_some_iff.1 hl).1
  obtain ⟨-, ho, -, hlines⟩ := foldl_deliver effects { w with lines := w.lines.set n l' }
  obtain ⟨hs, ht⟩ := foldl_deliver_subscriptions effects { w with lines := w.lines.set n l' }
  exact ⟨ho, by rw [move, hlines]; simp [hlt], hs, ht⟩

/-- A channel that has begun takes inputs, and the handlers get what it delivers. -/
theorem serves_took (g : Listener.Glance) {l : Line} {c : Channel}
    {inputs : List (Instant × Channel.Input)} (hl : w.lines[n]? = some l)
    (hc : l.channel? w.options = some c) (hinputs : ∀ x ∈ inputs, x.2 ≠ .shutdown) :
    ∃ l', l'.channel? w.options = some (c.run w.options inputs).1 ∧
      Serves w n l' (Channel.delivered (c.run w.options inputs).2)
        (w.run (inputs.map fun x => (g, .took n x.1 x.2))) := by
  induction inputs generalizing w l c with
  | nil => exact ⟨l, hc, rfl, hl, rfl, (List.append_nil _).symm⟩
  | cons x rest ih =>
    obtain ⟨time, input⟩ := x
    obtain ⟨hinput, hrest⟩ := List.forall_mem_cons.1 hinputs
    have hadmits : admits l input = true := by
      cases input with
      | shutdown => exact absurd rfl hinput
      | _ => rfl
    have hstep : w.step g (.took n time input) =
        w.move n { l with taken := l.taken ++ [(time, input)] }
          (c.step w.options time input).2 := by
      simp only [step, input?, transport, hl, hc, hadmits, if_true]
    have hfirst := serves_move hl { l with taken := l.taken ++ [(time, input)] }
      (c.step w.options time input).2
    rw [← hstep] at hfirst
    have hc' : ({ l with taken := l.taken ++ [(time, input)] } : Line).channel?
        (w.step g (.took n time input)).options = some (c.step w.options time input).1 := by
      obtain ⟨now, hbegan, rfl⟩ := Option.map_eq_some_iff.1 hc
      rw [hfirst.options, Line.channel?, hbegan, Option.map_some, Line.after_append]
    obtain ⟨l', hl', hlater⟩ := ih hfirst.line hc' hrest
    rw [hfirst.options] at hl' hlater
    refine ⟨l', hl', ?_⟩
    rw [Channel.run, Channel.delivered_append]
    exact hfirst.trans hlater

end HubListener

/-! ## Transcripts -/

namespace Hub.Transcript

variable {options : Listener.Options} {t : Transcript}

/-- The events that the channel delivers, in order. -/
def delivered (options : Listener.Options) (t : Transcript) : List Event :=
  Channel.delivered (t.outcome options).2

/-- The reasons that its user gets. -/
def told (options : Listener.Options) (t : Transcript) : List DisconnectReason :=
  Channel.told (t.outcome options).2

/-- `t.Undisturbed options`: the hub's answer completes the handshake, and nothing but messages
and time follows. There is no close of either side but in records, no failure and no
timeout. -/
structure Undisturbed (options : Listener.Options) (t : Transcript) : Prop where
  opened : greet (.ok (.text t.answer)) = .opened t.pending
  calm : Channel.Calm options (Channel.begin options t.began t.pending).1 t.inputs

/-- The records that the channel comes to before the clock fails it. -/
def heard (options : Listener.Options) (t : Transcript) : List String :=
  t.pending ++ if Channel.Paced options t.began then Channel.heard options t.inputs else []

/-- `t.Breaks options`: the clock cannot tell when the next ping is due, or when a silence will
have lasted too long, and no close record has ended the channel before. -/
def Breaks (options : Listener.Options) (t : Transcript) : Prop :=
  firstClose? (t.heard options) = none ∧
    ¬ (Channel.Paced options t.began ∧ ∀ x ∈ t.inputs, Channel.isTimed options x = true)

/-- All records of the transcript in the frame that answers the handshake. -/
def packed (t : Transcript) (answer : String) : Transcript := { t with answer, inputs := [] }

/-! ### Records -/

theorem pending_of_greet {answer : String} {pending : List String}
    (h : greet (.ok (.text answer)) = .opened pending) : (split answer).tail = pending := by
  simp only [greet] at h
  split at h
  · cases h
  · rename_i hsplit
    rw [hsplit]
    split at h
    · cases h
      rfl
    · cases h

theorem isRecord_of_mem_pending {r : String} (h : r ∈ t.pending) : IsRecord r :=
  isRecord_of_mem_split (List.mem_of_mem_tail h)

theorem isRecord_of_mem_records {r : String} (h : r ∈ t.records) : IsRecord r := by
  rcases List.mem_append.1 h with h | h
  · exact isRecord_of_mem_pending h
  · obtain ⟨⟨time, input⟩, -, hr⟩ := List.mem_flatMap.1 h
    cases input with
    | received m =>
      cases m with
      | text s => exact isRecord_of_mem_split hr
      | _ => simp [Channel.Input.records] at hr
    | _ => simp [Channel.Input.records] at hr

/-- What the channel comes to is a beginning of its records, and all of them if the clock can
tell what it needs. -/
theorem records_eq_heard_append (options : Listener.Options) (t : Transcript) :
    ∃ rest, t.records = t.heard options ++ rest ∧
      (Channel.Paced options t.began → (∀ x ∈ t.inputs, Channel.isTimed options x = true) →
        rest = []) := by
  unfold records heard Channel.heard
  split
  · refine ⟨recordsIn (t.inputs.dropWhile (Channel.isTimed options)), ?_, fun _ htimed => ?_⟩
    · rw [List.append_assoc, recordsIn, recordsIn, recordsIn, ← List.flatMap_append,
        List.takeWhile_append_dropWhile]
    · rw [List.dropWhile_eq_nil_iff.2 htimed]
      rfl
  · rename_i hpaced
    exact ⟨recordsIn t.inputs, by rw [List.append_nil], fun h => absurd h hpaced⟩

/-- Unless the clock breaks the channel off, all that counts of its records is heard. -/
theorem heard_of_not_breaks (h : ¬ t.Breaks options) :
    eventsBeforeClose (t.heard options) = eventsBeforeClose t.records ∧
      firstClose? (t.heard options) = firstClose? t.records := by
  obtain ⟨rest, hrecords, hrest⟩ := records_eq_heard_append options t
  cases hclose : firstClose? (t.heard options) with
  | some r =>
    rw [hrecords, eventsBeforeClose_append_of_some hclose, firstClose?_append, hclose]
    exact ⟨rfl, rfl⟩
  | none =>
    obtain ⟨hpaced, htimed⟩ := not_not.1 fun hnot => h ⟨hclose, hnot⟩
    rw [hrecords, hrest hpaced htimed, List.append_nil, hclose]
    exact ⟨rfl, rfl⟩

/-! ### Outcomes -/

/-- What the channel has done before its websocket is closed. -/
def unclosed (options : Listener.Options) (t : Transcript) : Channel.Move :=
  let (c, effects) := Channel.begin options t.began t.pending
  let (c, later) := c.run options t.inputs
  (c, effects ++ later)

theorem follows_unclosed (h : t.Undisturbed options) :
    Channel.Follows (t.unclosed options) (t.heard options)
      (Channel.Paced options t.began ∧ ∀ x ∈ t.inputs, Channel.isTimed options x = true) :=
  Channel.follows_begin h.calm

/-- That the records which came with the hub's answer are put together and read again leaves
no mark. The channel takes the end of its websocket last. -/
theorem outcome_eq (options : Listener.Options) (t : Transcript) :
    t.outcome options =
      (((t.unclosed options).1.step options t.closed .socketClosed).1,
        (t.unclosed options).2 ++
          ((t.unclosed options).1.step options t.closed .socketClosed).2) := by
  rw [outcome, reread_leftover? fun _ => isRecord_of_mem_pending]
  simp only [Channel.run_append, Channel.run, List.append_nil, List.append_assoc, unclosed]

theorem delivered_eq (h : t.Undisturbed options) :
    t.delivered options = eventsBeforeClose (t.heard options) := by
  have hlast : Channel.delivered
      ((t.unclosed options).1.step options t.closed .socketClosed).2 = [] := by
    cases (t.unclosed options).1 <;> rfl
  rw [delivered, outcome_eq, Channel.delivered_append, hlast, List.append_nil,
    (follows_unclosed h).events]

/-- `t.Ends options`: the three ways in which a transcript leaves a channel. -/
inductive Ends (options : Listener.Options) (t : Transcript) : Prop where
  /-- A close record has ended the channel. -/
  | closed (r : DisconnectReason) : firstClose? (t.heard options) = some r →
      (t.outcome options).1 = .over r → t.told options = [r] → Ends options t
  /-- It still listens. -/
  | listens (pingDue silenceDue : Instant) : firstClose? (t.heard options) = none →
      ¬ t.Breaks options → (t.outcome options).1 = .listening pingDue silenceDue →
      t.told options = [] → Ends options t
  /-- The clock has broken it off. -/
  | broken : t.Breaks options → (t.outcome options).1 = .broken →
      t.told options = [.dropped] → Ends options t

theorem ends (h : t.Undisturbed options) : t.Ends options := by
  have hfollows := follows_unclosed h
  have htold : t.told options = Channel.told (t.unclosed options).2 ++
      Channel.told ((t.unclosed options).1.step options t.closed .socketClosed).2 := by
    rw [told, outcome_eq, Channel.told_append]
  have hlast := congrArg Prod.fst (outcome_eq options t)
  cases hclose : firstClose? (t.heard options) with
  | some r =>
    obtain ⟨hleaving, hnone⟩ := hfollows.leaves r hclose
    rw [hleaving] at hlast htold
    exact .closed r hclose hlast (by rw [htold, hnone]; rfl)
  | none =>
    by_cases hgoes : Channel.Paced options t.began ∧
        ∀ x ∈ t.inputs, Channel.isTimed options x = true
    · obtain ⟨⟨pingDue, silenceDue, hlistening⟩, hnone⟩ := hfollows.listens hclose hgoes
      rw [hlistening] at hlast htold
      exact .listens pingDue silenceDue hclose (fun hb => hb.2 hgoes) hlast
        (by rw [htold, hnone]; rfl)
    · obtain ⟨hbroken, hdropped⟩ := hfollows.breaks hclose hgoes
      rw [hbroken] at hlast htold
      exact .broken ⟨hclose, hgoes⟩ hlast (by rw [htold, hdropped]; rfl)

/-- Unless the clock breaks a channel off, its records tell what it does. -/
theorem outcome_of_not_breaks (h : t.Undisturbed options) (hb : ¬ t.Breaks options) :
    t.delivered options = eventsBeforeClose t.records ∧
      t.told options = (firstClose? t.records).toList ∧
      (t.outcome options).1.reason? = firstClose? t.records := by
  obtain ⟨hevents, hclose⟩ := heard_of_not_breaks hb
  rw [delivered_eq h, hevents, ← hclose]
  refine ⟨rfl, ?_⟩
  cases ends h with
  | closed r hr hover htold => rw [hover, htold, hr]; exact ⟨rfl, rfl⟩
  | listens _ _ hnone _ hlistens htold => rw [hlistens, htold, hnone]; exact ⟨rfl, rfl⟩
  | broken hbreaks => exact absurd hbreaks hb

theorem broken_iff (h : t.Undisturbed options) :
    (t.outcome options).1 = .broken ↔ t.Breaks options := by
  cases ends h with
  | closed r hr hover =>
    rw [hover]
    exact iff_of_false (by simp) fun hb => by simp [hb.1] at hr
  | listens _ _ _ hb hlistens =>
    rw [hlistens]
    exact iff_of_false (by simp) hb
  | broken hb hbroken => exact iff_of_true hbroken hb

theorem told_of_breaks (h : t.Undisturbed options) (hb : t.Breaks options) :
    t.told options = [.dropped] := by
  cases ends h with
  | closed r hr => simp [hb.1] at hr
  | listens _ _ _ hnot => exact absurd hb hnot
  | broken _ _ htold => exact htold

/-- All records can come in the frame that answers the handshake. -/
theorem exists_packed (h : t.Undisturbed options) :
    ∃ answer, (t.packed answer).Undisturbed options ∧ (t.packed answer).records = t.records := by
  obtain ⟨first, hgreet⟩ := greet_join h.opened fun _ => isRecord_of_mem_records (t := t)
  refine ⟨join (first :: t.records), ⟨?_, trivial⟩, ?_⟩
  · rw [pending, packed, pending_of_greet hgreet]
    exact hgreet
  · rw [records, pending, packed, pending_of_greet hgreet]
    exact List.append_nil _

/-! ### Handlers -/

/-- What happens to the channel `n` of a listener, by the transcript. -/
def happenings (g : Listener.Glance) (n : Nat) (t : Transcript) :
    List (Listener.Glance × HubListener.Event) :=
  let taken : List (Instant × Channel.Input) := t.inputs ++ [(t.closed, .socketClosed)]
  (g, .began n t.began) :: taken.map fun x => (g, .took n x.1 x.2)

theorem ne_shutdown_of_calm {c : Channel} {inputs : List (Instant × Channel.Input)}
    (h : Channel.Calm options c inputs) : ∀ x ∈ inputs, x.2 ≠ .shutdown := by
  induction inputs generalizing c with
  | nil => simp
  | cons x rest ih =>
    refine List.forall_mem_cons.2 ⟨fun hx => ?_, ih h.2⟩
    have hquiet := h.1
    rw [hx] at hquiet
    exact hquiet

/-- **The handlers get what the channel delivers**, and the listener gets its reason. -/
theorem serves_happenings (h : t.Undisturbed options) {w : HubListener} (g : Listener.Glance)
    {n : Nat} (hw : w.options = options) (hl : w.lines[n]? = some (.fresh t.pending)) :
    ∃ l, w.Serves n l (t.delivered options) (w.run (t.happenings g n)) ∧
      l.channel? options = some (t.outcome options).1 := by
  subst hw
  have hbegan : w.step g (.began n t.began) =
      w.move n { Line.fresh t.pending with began := some t.began }
        (Channel.begin w.options t.began t.pending).2 := by
    simp [HubListener.step, HubListener.input?, HubListener.transport, hl, Line.fresh]
  have hfirst := HubListener.serves_move hl { Line.fresh t.pending with began := some t.began }
    (Channel.begin w.options t.began t.pending).2
  rw [← hbegan] at hfirst
  have hc : ({ Line.fresh t.pending with began := some t.began } : Line).channel?
      (w.step g (.began n t.began)).options =
        some (Channel.begin w.options t.began t.pending).1 := by rw [hfirst.options]; rfl
  have hinputs : ∀ x ∈ t.inputs ++ [(t.closed, .socketClosed)], x.2 ≠ .shutdown := by
    simpa [or_imp, forall_and] using ne_shutdown_of_calm h.calm
  obtain ⟨l, hl', hlater⟩ := HubListener.serves_took g hfirst.line hc hinputs
  rw [hfirst.options] at hl' hlater
  refine ⟨l, ?_, ?_⟩
  · rw [delivered, outcome, reread_leftover? fun _ => isRecord_of_mem_pending,
      Channel.delivered_append]
    exact hfirst.trans hlater
  · rw [hl', outcome, reread_leftover? fun _ => isRecord_of_mem_pending]

/-- The listener gets the reason that the channel gives. -/
theorem reason?_of_channel? (h : t.Undisturbed options) {l : Line}
    (hc : l.channel? options = some (t.outcome options).1) :
    l.reason? options = (t.told options).head? := by
  rw [Line.reason?, hc]
  cases ends h with
  | closed r _ hover htold => rw [hover, htold]; rfl
  | listens _ _ _ _ hlistens htold => rw [hlistens, htold]; rfl
  | broken _ hbroken htold => rw [hbroken, htold]; rfl

/-! ### The whole -/

/-- **What a channel delivers and the reason that it gives depend on its records alone, unless
the clock breaks it off.** It breaks off exactly if it has to listen and its pings cannot be
scheduled, or a message comes before any close record and the end of the silence after it
cannot be told; what it has delivered up to there is again told by its records. Records that
cannot be read leave no mark, all records may come in the frame that answers the handshake,
the handlers get exactly the events that are delivered, and how they end changes nothing but
the outcomes of these. -/
theorem delivery_tells_records (h : t.Undisturbed options) :
    (¬ t.Breaks options →
      t.delivered options = eventsBeforeClose t.records ∧
      t.told options = (firstClose? t.records).toList ∧
      (t.outcome options).1.reason? = firstClose? t.records) ∧
    ((t.outcome options).1 = .broken ↔ t.Breaks options) ∧
    (t.Breaks options →
      t.delivered options = eventsBeforeClose (t.heard options) ∧ t.told options = [.dropped]) ∧
    (∀ before r after, t.records = before ++ r :: after → Message.ofRecord? r = none →
      eventsBeforeClose t.records = eventsBeforeClose (before ++ after) ∧
      firstClose? t.records = firstClose? (before ++ after)) ∧
    (∃ answer, (t.packed answer).Undisturbed options ∧ (t.packed answer).records = t.records) ∧
    (∀ options' t', Undisturbed options' t' → t'.records = t.records →
      ¬ t.Breaks options → ¬ t'.Breaks options' →
      t'.delivered options' = t.delivered options ∧ t'.told options' = t.told options) ∧
    (∀ (w : HubListener) (g : Listener.Glance) (n : Nat), w.options = options →
      w.lines[n]? = some (.fresh t.pending) →
      let w' := w.run (t.happenings g n)
      w'.subscriptions = (w.subscriptions.deliver (t.delivered options)).1 ∧
      w'.traces = w.traces ++ (w.subscriptions.deliver (t.delivered options)).2 ∧
      w'.reason? n = (t.told options).head?) ∧
    ∀ s s' : Subscriptions Handler, s.smoothed = s'.smoothed →
      (s.deliver (t.delivered options)).2.map Trace.smoothed =
        (s'.deliver (t.delivered options)).2.map Trace.smoothed := by
  refine ⟨outcome_of_not_breaks h, broken_iff h,
    fun hb => ⟨delivered_eq h, told_of_breaks h hb⟩, ?_, exists_packed h, ?_, ?_, ?_⟩
  · intro before r after hrow hunreadable
    rw [hrow]
    exact unreadable_leaves_no_mark hunreadable before after
  · intro options' t' h' hsame hb hb'
    obtain ⟨hd, ht, -⟩ := outcome_of_not_breaks h hb
    obtain ⟨hd', ht', -⟩ := outcome_of_not_breaks h' hb'
    exact ⟨by rw [hd, hd', hsame], by rw [ht, ht', hsame]⟩
  · intro w g n hw hl
    obtain ⟨l, hserves, hc⟩ := serves_happenings h g hw hl
    refine ⟨hserves.subscriptions, hserves.traces, ?_⟩
    rw [HubListener.reason?, hserves.line, hserves.options, hw]
    exact reason?_of_channel? h hc
  · intro s s' hsame
    have hs := Subscriptions.deliver_smoothed s (t.delivered options)
    have hs' := Subscriptions.deliver_smoothed s' (t.delivered options)
    rw [hsame, hs'] at hs
    exact (Prod.mk.inj hs).2.symm

/-- Options with pings at no distance. -/
def unpaced : Listener.Options := { Listener.Options.standard with keepalive := .zero }

/-- A record with one event. -/
def oneEvent : String :=
  "\x7b\"type\":1,\"target\":\"ReceiveMessage\",\"arguments\":[\x7b\"Name\":\"One\"\x7d]\x7d\x1e"

/-- A hub that sends a record after its answer to the handshake. -/
def late : Transcript := ⟨"\x7b\x7d\x1e", 0, [(1, .received (.text oneEvent))], 2⟩

/-- A hub that sends the same record together with its answer. -/
def early : Transcript := ⟨"\x7b\x7d\x1e" ++ oneEvent, 0, [], 2⟩

/-- With pings at no distance the same record is lost after the answer to the handshake, and
delivered together with it. -/
theorem late_record_is_lost :
    late.Undisturbed unpaced ∧ late.records = early.records ∧ late.Breaks unpaced ∧
      (late.outcome unpaced).1 = .broken ∧ late.delivered unpaced = [] ∧
      late.told unpaced = [.dropped] ∧
      early.delivered unpaced = [⟨"One", "\x7b\"Name\":\"One\"\x7d"⟩] := by
  have hlate : late.Undisturbed unpaced := ⟨rfl, trivial, trivial⟩
  have hearly : early.Undisturbed unpaced := ⟨rfl, trivial⟩
  have hbreaks : late.Breaks unpaced := ⟨rfl, fun h => absurd h.1.1 (by decide)⟩
  have hbreaks' : early.Breaks unpaced := ⟨by decide +kernel, fun h => absurd h.1.1 (by decide)⟩
  obtain ⟨-, hbroken, hlost, -⟩ := delivery_tells_records hlate
  obtain ⟨-, -, hkept, -⟩ := delivery_tells_records hearly
  refine ⟨hlate, by decide +kernel, hbreaks, hbroken.2 hbreaks, (hlost hbreaks).1,
    (hlost hbreaks).2, (hkept hbreaks').1.trans ?_⟩
  decide +kernel

end Hub.Transcript

end Appliance
