import Appliance.Hub.Record
import Appliance.Proofs.Json.Record
import Appliance.Proofs.Json.Values
import Mathlib.Data.List.Forall2

/-!
# Which events an invocation delivers

An invocation carries arguments, and each argument carries events of its own: one, a batch of
them, or none. This file says by rules which they are, with no word on how they are found, and
shows that decoding a record finds exactly these, in the order of the arguments and of the
batches. So what one argument or one entry of a batch holds is no matter to the others.

* `Invokes`              — what a record says that is an invocation.
* `StandsFor`, `OfEntry`, `OfPayload`, `OfArgument` — the rules.
* `Gathers`, `gathers_iff` — the events of a row are those of its parts, one after another.
* `ofArgument_iff`       — an argument has exactly the events that are found in it.
* `ofRecord?_eq_invocation_iff` — a record is decoded as an invocation exactly if it is one.
* **`invocation_delivers_its_arguments`** — a record is decoded as an invocation with the events
  of its arguments, and whatever takes the place of some of them leaves the others alone.
-/

namespace Appliance

namespace Json.Value

/-- `Member v key w`: the value `v` is an object, and `w` is its member of that key. -/
def Member (v : Value) (key : String) (w : Value) : Prop := ∃ ms, v = .object ms ∧ (key, w) ∈ ms

theorem find?_eq_some_iff {ms : List (String × Value)} {key : String} {w : Value}
    (h : (ms.map (·.1)).Pairwise (· < ·)) :
    (ms.find? fun m => m.1 == key).map (·.2) = some w ↔ (key, w) ∈ ms := by
  induction ms with
  | nil => simp
  | cons m ms ih =>
    obtain ⟨k, x⟩ := m
    obtain ⟨hk, hms⟩ := List.pairwise_cons.1 h
    by_cases hkey : k = key
    · subst hkey
      have hnot : (k, w) ∉ ms := fun hmem =>
        String.lt_irrefl k (hk k (List.mem_map.2 ⟨_, hmem, rfl⟩))
      simp [hnot, eq_comm]
    · rw [List.find?_cons_of_neg (by simpa using hkey), ih hms]
      simp [Ne.symm hkey]

/-- An orderly object has one member of a key at most, and that is found. -/
theorem member?_eq_some_iff {room : Nat} {v w : Value} {key : String} (h : Orderly room v) :
    v.member? key = some w ↔ v.Member key w := by
  cases h with
  | object hkeys _ =>
    rw [member?, find?_eq_some_iff hkeys]
    simp [Member]
  | _ => simp [member?, Member]

section

variable {room : Nat} {v : Value} {key : String}

/-- The string that is found under a key is the one that stands there. -/
theorem bind_string?_eq_some_iff (h : Orderly room v) {s : String} :
    (v.member? key).bind string? = some s ↔ v.Member key (.string s) := by
  have hstring : ∀ w : Value, w.string? = some s ↔ w = .string s := by
    intro w
    cases w <;> simp [string?]
  simp only [Option.bind_eq_some_iff, hstring, exists_eq_right]
  exact member?_eq_some_iff h

/-- The array that is found under a key is the one that stands there. -/
theorem bind_array?_eq_some_iff (h : Orderly room v) {xs : List Value} :
    (v.member? key).bind array? = some xs ↔ v.Member key (.array xs) := by
  have harray : ∀ w : Value, w.array? = some xs ↔ w = .array xs := by
    intro w
    cases w <;> simp [array?]
  simp only [Option.bind_eq_some_iff, harray, exists_eq_right]
  exact member?_eq_some_iff h

theorem member?_eq_none_iff (h : Orderly room v) :
    v.member? key = none ↔ ∀ w, ¬ v.Member key w := by
  simp only [Option.eq_none_iff_forall_ne_some, ne_eq, member?_eq_some_iff h]

theorem bind_string?_eq_none_iff (h : Orderly room v) :
    (v.member? key).bind string? = none ↔ ∀ s, ¬ v.Member key (.string s) := by
  simp only [Option.eq_none_iff_forall_ne_some, ne_eq, bind_string?_eq_some_iff h]

theorem bind_array?_eq_none_iff (h : Orderly room v) :
    (v.member? key).bind array? = none ↔ ∀ xs, ¬ v.Member key (.array xs) := by
  simp only [Option.eq_none_iff_forall_ne_some, ne_eq, bind_array?_eq_some_iff h]

/-- What stands in an orderly object is orderly. -/
theorem Orderly.member {w : Value} (h : Orderly room v) (hw : v.Member key w) :
    Orderly room w := by
  obtain ⟨ms, rfl, hmem⟩ := hw
  cases h with
  | object _ hms => exact (hms _ hmem).mono (Nat.le_succ _)

/-- The items of an orderly array are orderly. -/
theorem Orderly.item {x : Value} {xs : List Value} (h : Orderly room (.array xs)) (hx : x ∈ xs) :
    Orderly room x := by
  cases h with
  | array hxs => exact (hxs x hx).mono (Nat.le_succ _)

end

end Json.Value

namespace Hub

open Appliance.Json

/-! ## The rules -/

/-- `StandsFor a p`: the argument `a` stands for the payload `p`. A string stands for the value
of which it is the JSON text, and any other value for itself. -/
inductive StandsFor : Value → Value → Prop
  | encoded {s : String} {p : Value} (h : Value.ofText? s = some p) : StandsFor (.string s) p
  | itself {p : Value} (h : ∀ s, p ≠ .string s) : StandsFor p p

/-- `BodyOf d body`: the data `d` of an entry are told as `body`. A string is told as it is, and
any other value by its text. -/
inductive BodyOf : Value → String → Prop
  | string (s : String) : BodyOf (.string s) s
  | value {d : Value} (h : ∀ s, d ≠ .string s) : BodyOf d d.text

/-- `OfEntry entry events`: the entry of a batch is one event if it has a name, with the body of
its data or none, and otherwise nothing. -/
inductive OfEntry : Value → List Event → Prop
  | data {entry d : Value} {name body : String} (hname : entry.Member "Name" (.string name))
      (hdata : entry.Member "Data" d) (hbody : BodyOf d body) : OfEntry entry [⟨name, body⟩]
  | bare {entry : Value} {name : String} (hname : entry.Member "Name" (.string name))
      (hdata : ∀ d, ¬ entry.Member "Data" d) : OfEntry entry [⟨name, ""⟩]
  | nameless {entry : Value} (hname : ∀ name, ¬ entry.Member "Name" (.string name)) :
      OfEntry entry []

/-- `Gathers R xs events`: the events of the row `xs` are those of its parts, one after
another. -/
inductive Gathers {α : Type} (R : α → List Event → Prop) : List α → List Event → Prop
  | nil : Gathers R [] []
  | cons {x : α} {xs : List α} {here later : List Event} (h : R x here)
      (hs : Gathers R xs later) : Gathers R (x :: xs) (here ++ later)

/-- `OfPayload p events`: a payload is a batch of entries, or else one event if it has a name, and
otherwise nothing. The body of one event is the text of the payload, which is read as the payload
again if the doubles in it are read back. -/
inductive OfPayload : Value → List Event → Prop
  | batch {p : Value} {entries : List Value} {events : List Event}
      (hbatch : p.Member "Events" (.array entries)) (h : Gathers OfEntry entries events) :
      OfPayload p events
  | single {p : Value} {name : String} (hbatch : ∀ entries, ¬ p.Member "Events" (.array entries))
      (hname : p.Member "Name" (.string name))
      (hbody : p.Exact → Value.ofText? p.text = some p) : OfPayload p [⟨name, p.text⟩]
  | nameless {p : Value} (hbatch : ∀ entries, ¬ p.Member "Events" (.array entries))
      (hname : ∀ name, ¬ p.Member "Name" (.string name)) : OfPayload p []

/-- `OfArgument a events`: an argument has the events of the payload for which it stands, and
none if it stands for nothing. -/
inductive OfArgument : Value → List Event → Prop
  | payload {a p : Value} {events : List Event} (ha : StandsFor a p) (h : OfPayload p events) :
      OfArgument a events
  | unreadable {a : Value} (h : ∀ p, ¬ StandsFor a p) : OfArgument a []

/-- `Gives given arguments`: a record gives these values for its arguments, one for each item of
an array, and none if it does not give any. -/
inductive Gives : Option Tree → List Value → Prop
  | missing : Gives none []
  | items {xs : List Tree} {vs : List Value}
      (h : List.Forall₂ (fun x v => Value.ofTree argumentDepth x = some v) xs vs) :
      Gives (some (.array xs)) vs

/-- `Invokes record target arguments`: the record is a JSON text of type 1 that says which target
is called, with which arguments; and its other fields are as they may be. -/
def Invokes (record target : String) (arguments : List Value) : Prop :=
  ∃ t kind told given error allowReconnect, Tree.ofText? record = some t ∧
    Record.fields? fields t = some [kind, told, given, error, allowReconnect] ∧
    (∃ k, kind = some k ∧ k.natBelow? 256 = some 1) ∧
    (∃ name, Record.Says Tree.text? told name ∧ name.getD "" = target) ∧
    Gives given arguments ∧ (∃ reason, Record.Says Tree.text? error reason) ∧
    ∃ allowed, Record.Says Tree.bool? allowReconnect allowed

/-! ## Rows -/

/-- What is gathered from a row is found part by part, if that is so of each part. -/
theorem gathers_iff {α : Type} {R : α → List Event → Prop} {f : α → List Event} {xs : List α}
    (h : ∀ x ∈ xs, ∀ events, R x events ↔ f x = events) {events : List Event} :
    Gathers R xs events ↔ xs.flatMap f = events := by
  induction xs generalizing events with
  | nil =>
    constructor
    · rintro ⟨⟩
      rfl
    · rintro rfl
      exact .nil
  | cons x xs ih =>
    obtain ⟨hx, hxs⟩ := List.forall_mem_cons.1 h
    constructor
    · rintro (_ | ⟨hhere, hlater⟩)
      rw [List.flatMap_cons, (hx _).1 hhere, (ih hxs).1 hlater]
    · rintro rfl
      exact .cons ((hx _).2 rfl) ((ih hxs).2 rfl)

/-! ## Entries and payloads -/

section

variable {room : Nat} {entry p a : Value} {events : List Event}

theorem bodyOf_iff {d : Value} {body : String} : BodyOf d body ↔ bodyText d = body := by
  constructor
  · rintro (_ | hd)
    · rfl
    · cases d with
      | string s => exact absurd rfl (hd s)
      | _ => rfl
  · rintro rfl
    cases d with
    | string s => exact .string s
    | _ => exact .value (by simp)

/-- The entry of a batch is the event that is found in it, or nothing if none is found. -/
theorem ofEntry_iff (h : Value.Orderly room entry) :
    OfEntry entry events ↔ (batchEvent? entry).toList = events := by
  unfold batchEvent?
  constructor
  · rintro (⟨hname, hdata, hbody⟩ | ⟨hname, hdata⟩ | hname)
    · rw [(Value.bind_string?_eq_some_iff h).2 hname, (Value.member?_eq_some_iff h).2 hdata]
      simp [bodyOf_iff.1 hbody]
    · rw [(Value.bind_string?_eq_some_iff h).2 hname, (Value.member?_eq_none_iff h).2 hdata]
      simp
    · rw [(Value.bind_string?_eq_none_iff h).2 hname]
      rfl
  · rintro rfl
    cases hname : (entry.member? "Name").bind Value.string? with
    | none => exact .nameless ((Value.bind_string?_eq_none_iff h).1 hname)
    | some name =>
      have hname := (Value.bind_string?_eq_some_iff h).1 hname
      cases hdata : entry.member? "Data" with
      | none => exact .bare hname ((Value.member?_eq_none_iff h).1 hdata)
      | some d => exact .data hname ((Value.member?_eq_some_iff h).1 hdata) (bodyOf_iff.2 rfl)

/-- The events of the entries of a batch are those that are found in them. -/
theorem gathers_ofEntry_iff {entries : List Value}
    (h : ∀ entry ∈ entries, Value.Orderly room entry) :
    Gathers OfEntry entries events ↔ entries.filterMap batchEvent? = events := by
  rw [List.filterMap_eq_flatMap_toList batchEvent? entries]
  refine gathers_iff fun entry hentry events => ?_
  exact ofEntry_iff (h entry hentry)

/-- A payload has exactly the events that are found in it. -/
theorem ofPayload_iff (h : Value.Orderly Value.depthLimit p) :
    OfPayload p events ↔ payloadEvents p = events := by
  unfold payloadEvents
  constructor
  · rintro (⟨hbatch, hentries⟩ | ⟨hbatch, hname, -⟩ | ⟨hbatch, hname⟩)
    · rw [(Value.bind_array?_eq_some_iff h).2 hbatch]
      exact (gathers_ofEntry_iff fun entry => (h.member hbatch).item).1 hentries
    · rw [(Value.bind_array?_eq_none_iff h).2 hbatch, (Value.bind_string?_eq_some_iff h).2 hname]
    · rw [(Value.bind_array?_eq_none_iff h).2 hbatch, (Value.bind_string?_eq_none_iff h).2 hname]
  · rintro rfl
    cases hbatch : (p.member? "Events").bind Value.array? with
    | some entries =>
      have hbatch := (Value.bind_array?_eq_some_iff h).1 hbatch
      exact .batch hbatch ((gathers_ofEntry_iff fun entry => (h.member hbatch).item).2 rfl)
    | none =>
      have hbatch := (Value.bind_array?_eq_none_iff h).1 hbatch
      cases hname : (p.member? "Name").bind Value.string? with
      | some name =>
        exact .single hbatch ((Value.bind_string?_eq_some_iff h).1 hname) (Value.ofText?_text h)
      | none => exact .nameless hbatch ((Value.bind_string?_eq_none_iff h).1 hname)

/-! ## Arguments -/

theorem standsFor_iff : StandsFor a p ↔ payload? a = some p := by
  constructor
  · rintro (h | h)
    · exact h
    · cases p with
      | string s => exact absurd rfl (h s)
      | _ => rfl
  · intro h
    cases a with
    | string s => exact .encoded h
    | _ =>
      cases h
      exact .itself (by simp)

/-- What an orderly argument stands for is orderly. -/
theorem StandsFor.orderly (h : StandsFor a p) (ha : Value.Orderly argumentDepth a) :
    Value.Orderly Value.depthLimit p := by
  cases h with
  | encoded h => exact Value.orderly_of_ofText? h
  | itself _ => exact ha.mono (by decide)

/-- **An argument has exactly the events that are found in it.** -/
theorem ofArgument_iff (h : Value.Orderly argumentDepth a) :
    OfArgument a events ↔ eventsOf a = events := by
  unfold eventsOf
  constructor
  · rintro (⟨hp, hevents⟩ | hnone)
    · rw [standsFor_iff.1 hp]
      exact (ofPayload_iff (hp.orderly h)).1 hevents
    · have hpayload : payload? a = none :=
        Option.eq_none_iff_forall_ne_some.2 fun p hp => hnone p (standsFor_iff.2 hp)
      rw [hpayload]
  · rintro rfl
    cases hpayload : payload? a with
    | some p =>
      have hp := standsFor_iff.2 hpayload
      exact .payload hp ((ofPayload_iff (hp.orderly h)).2 rfl)
    | none =>
      refine .unreadable fun p hp => ?_
      rw [standsFor_iff.1 hp] at hpayload
      cases hpayload

end

/-! ## Records -/

section

variable {given : Option Tree} {arguments : List Value} {record target : String}
  {events : List Event}

/-- The items of an array are read one by one. -/
theorem mapM_eq_some_iff {α β : Type} {f : α → Option β} {xs : List α} {ys : List β} :
    xs.mapM f = some ys ↔ List.Forall₂ (fun x y => f x = some y) xs ys := by
  induction xs generalizing ys with
  | nil => simp [List.forall₂_nil_left_iff, eq_comm]
  | cons x xs ih =>
    simp only [List.mapM_cons, Option.bind_eq_bind, Option.bind_eq_some_iff, Option.pure_def,
      Option.some.injEq, List.forall₂_cons_left_iff, ih]
    constructor
    · rintro ⟨y, hy, ys, hys, rfl⟩
      exact ⟨y, ys, hy, hys, rfl⟩
    · rintro ⟨y, ys, hy, hys, rfl⟩
      exact ⟨y, hy, ys, hys, rfl⟩

theorem gives_iff : Gives given arguments ↔
    Record.orElse? (Tree.list? (Value.ofTree argumentDepth)) [] given = some arguments := by
  constructor
  · rintro (_ | h)
    · rfl
    · exact mapM_eq_some_iff.2 h
  · intro h
    cases given with
    | none =>
      cases h
      exact .missing
    | some t =>
      cases t with
      | array xs => exact .items (mapM_eq_some_iff.1 h)
      | _ => cases h

/-- The arguments of a record are orderly. -/
theorem Gives.orderly (h : Gives given arguments) {a : Value} (ha : a ∈ arguments) :
    Value.Orderly argumentDepth a := by
  cases h with
  | missing => cases ha
  | items h =>
    obtain ⟨i, hi, rfl⟩ := List.getElem_of_mem ha
    exact Value.orderly_of_ofTree (h.get (by rwa [h.length_eq]) hi)

theorem required?_natBelow?_iff {kind : Option Tree} {n : Nat} :
    Record.required? (Tree.natBelow? 256) kind = some n ↔
      ∃ k, kind = some k ∧ k.natBelow? 256 = some n := by
  cases kind <;> simp [Record.required?]

/-- What an invocation means is its target and the events that are found in its arguments. -/
theorem Raw.message_eq_invocation_iff {r : Raw} : r.message = .invocation target events ↔
    r.kind = 1 ∧ r.target.getD "" = target ∧ r.arguments.flatMap eventsOf = events := by
  unfold Raw.message
  split
  · next h => simp [h]
  · next h => split <;> [skip; split] <;> simp [h]

/-- **A record is decoded as an invocation exactly if it is one**, with the events that are found
in its arguments. -/
theorem ofRecord?_eq_invocation_iff :
    Message.ofRecord? record = some (.invocation target events) ↔
      ∃ arguments, Invokes record target arguments ∧ arguments.flatMap eventsOf = events := by
  simp only [Message.ofRecord?, Option.map_eq_some_iff, Option.bind_eq_some_iff,
    Raw.message_eq_invocation_iff]
  constructor
  · rintro ⟨r, ⟨t, ht, hr⟩, hkind, htarget, hevents⟩
    simp only [Raw.ofTree?, Option.bind_eq_bind, Option.bind_eq_some_iff] at hr
    obtain ⟨row, hrow, hr⟩ := hr
    split at hr
    · next kind told given error allowReconnect =>
      simp only [Option.bind_eq_some_iff, Option.pure_def, Option.some.injEq,
        required?_natBelow?_iff, Record.optional?_eq_some_iff, ← gives_iff] at hr
      obtain ⟨k, hk, name, hname, arguments, hgiven, reason, hreason, allowed, hallowed, rfl⟩ := hr
      subst hkind
      exact ⟨arguments, ⟨t, _, _, _, _, _, ht, hrow, hk, ⟨name, hname, htarget⟩, hgiven,
        ⟨reason, hreason⟩, allowed, hallowed⟩, hevents⟩
    · cases hr
  · rintro ⟨arguments, ⟨t, kind, told, given, error, allowReconnect, ht, hrow, hkind,
      ⟨name, hname, htarget⟩, hgiven, ⟨reason, hreason⟩, allowed, hallowed⟩, hevents⟩
    refine ⟨⟨1, name, arguments, reason, allowed⟩, ⟨t, ht, ?_⟩, rfl, htarget, hevents⟩
    simp only [Raw.ofTree?, hrow, required?_natBelow?_iff.2 hkind,
      Record.optional?_eq_some_iff.2 hname, gives_iff.1 hgiven,
      Record.optional?_eq_some_iff.2 hreason, Record.optional?_eq_some_iff.2 hallowed,
      Option.bind_eq_bind, Option.bind_some, Option.pure_def]

/-- The arguments of an invocation are orderly. -/
theorem Invokes.orderly (h : Invokes record target arguments) {a : Value} (ha : a ∈ arguments) :
    Value.Orderly argumentDepth a := by
  obtain ⟨t, kind, told, given, error, allowReconnect, -, -, -, -, hgiven, -, -⟩ := h
  exact hgiven.orderly ha

/-- The events of a stretch of the arguments are those that are found in them. -/
theorem Invokes.gathers (h : Invokes record target arguments) (stretch : List Value)
    (hstretch : stretch ⊆ arguments) :
    Gathers OfArgument stretch (stretch.flatMap eventsOf) := by
  refine (gathers_iff fun a ha events => ?_).2 rfl
  exact ofArgument_iff (h.orderly (hstretch ha))

/-- An invocation is decoded, with the events that are found in its arguments. -/
theorem Invokes.ofRecord?_eq (h : Invokes record target arguments) :
    Message.ofRecord? record = some (.invocation target (arguments.flatMap eventsOf)) :=
  ofRecord?_eq_invocation_iff.2 ⟨arguments, h, rfl⟩

end

/-- The events of a batch are those of its entries. -/
theorem StandsFor.eventsOf_batch {a p : Value} {entries : List Value} (h : StandsFor a p)
    (ha : Value.Orderly argumentDepth a) (hbatch : p.Member "Events" (.array entries)) :
    eventsOf a = entries.filterMap batchEvent? := by
  have hp := h.orderly ha
  refine (ofArgument_iff ha).1 (.payload h (.batch hbatch ?_))
  exact (gathers_ofEntry_iff fun entry => (hp.member hbatch).item).2 rfl

/-- The events of a stretch of the entries of a batch are those that are found in them. -/
theorem StandsFor.gathers {a p : Value} {entries : List Value} (h : StandsFor a p)
    (ha : Value.Orderly argumentDepth a) (hbatch : p.Member "Events" (.array entries))
    (stretch : List Value) (hstretch : stretch ⊆ entries) :
    Gathers OfEntry stretch (stretch.filterMap batchEvent?) :=
  (gathers_ofEntry_iff fun _ hentry =>
    ((h.orderly ha).member hbatch).item (hstretch hentry)).2 rfl

/-- **An invocation delivers the events of its arguments.**  A record is decoded as an invocation
of a target with some events exactly if it is a record of type 1 that calls this target, and the
events are those of its arguments, one argument after another. Two records that differ in a
stretch of their arguments — dropped, added, spoiled or replaced — deliver the same events before
it and the same events after it; and so do two records that differ in a stretch of the entries of
one batch. -/
theorem invocation_delivers_its_arguments :
    (∀ record target events, Message.ofRecord? record = some (.invocation target events) ↔
      ∃ arguments, Invokes record target arguments ∧ Gathers OfArgument arguments events) ∧
    (∀ record target arguments, Invokes record target arguments →
      ∃ events, Message.ofRecord? record = some (.invocation target events)) ∧
    (∀ record record' target target' before stretch stretch' after,
      Invokes record target (before ++ stretch ++ after) →
      Invokes record' target' (before ++ stretch' ++ after) →
      ∃ first told told' last,
        Message.ofRecord? record = some (.invocation target (first ++ told ++ last)) ∧
        Message.ofRecord? record' = some (.invocation target' (first ++ told' ++ last)) ∧
        Gathers OfArgument before first ∧ Gathers OfArgument stretch told ∧
        Gathers OfArgument stretch' told' ∧ Gathers OfArgument after last) ∧
    (∀ record record' target target' before a a' after p p' entries stretch stretch' entries',
      Invokes record target (before ++ a :: after) →
      Invokes record' target' (before ++ a' :: after) →
      StandsFor a p → p.Member "Events" (.array (entries ++ stretch ++ entries')) →
      StandsFor a' p' → p'.Member "Events" (.array (entries ++ stretch' ++ entries')) →
      ∃ first head told told' tail last,
        Message.ofRecord? record =
          some (.invocation target (first ++ (head ++ told ++ tail) ++ last)) ∧
        Message.ofRecord? record' =
          some (.invocation target' (first ++ (head ++ told' ++ tail) ++ last)) ∧
        Gathers OfArgument before first ∧ Gathers OfEntry entries head ∧
        Gathers OfEntry stretch told ∧ Gathers OfEntry stretch' told' ∧
        Gathers OfEntry entries' tail ∧ Gathers OfArgument after last) := by
  refine ⟨fun record target events => ?_, fun record target arguments h => ⟨_, h.ofRecord?_eq⟩,
    fun record record' target target' before stretch stretch' after h h' => ?_,
    fun record record' target target' before a a' after p p' entries stretch stretch' entries'
      h h' hp hbatch hp' hbatch' => ?_⟩
  · rw [ofRecord?_eq_invocation_iff]
    refine exists_congr fun arguments => and_congr_right fun h => ?_
    refine (gathers_iff fun a ha events => ?_).symm
    exact ofArgument_iff (h.orderly ha)
  · refine ⟨_, _, _, _, ?_, ?_, h.gathers before (by simp),
      h.gathers stretch (by simp), h'.gathers stretch' (by simp),
      h.gathers after (by simp)⟩
    · rw [h.ofRecord?_eq, List.flatMap_append, List.flatMap_append]
    · rw [h'.ofRecord?_eq, List.flatMap_append, List.flatMap_append]
  · have ha := h.orderly (a := a) (by simp)
    have ha' := h'.orderly (a := a') (by simp)
    refine ⟨_, _, _, _, _, _, ?_, ?_, h.gathers before (by simp),
      hp.gathers ha hbatch entries (by simp),
      hp.gathers ha hbatch stretch (by simp),
      hp'.gathers ha' hbatch' stretch' (by simp),
      hp.gathers ha hbatch entries' (by simp),
      h.gathers after (by simp)⟩
    · rw [h.ofRecord?_eq, List.flatMap_append, List.flatMap_cons, hp.eventsOf_batch ha hbatch]
      simp
    · rw [h'.ofRecord?_eq, List.flatMap_append, List.flatMap_cons, hp'.eventsOf_batch ha' hbatch']
      simp

/-- A batch that comes as a string and has an entry without a name, then an argument that is no
JSON text, then an event. -/
theorem mixed_arguments_are_delivered :
    ∃ arguments,
      Invokes ("\x7b\"type\":1,\"arguments\":[" ++
        "\"\x7b\\\"Events\\\":[\x7b\\\"Name\\\":\\\"A\\\"\x7d,7]\x7d\"," ++
        "\"\x7b\"," ++ "\x7b\"Name\":\"B\"\x7d" ++ "]\x7d") "" arguments ∧
      Gathers OfArgument arguments [⟨"A", ""⟩, ⟨"B", "\x7b\"Name\":\"B\"\x7d"⟩] :=
  (invocation_delivers_its_arguments.1 _ _ _).1 (by decide +kernel)

end Hub

end Appliance
