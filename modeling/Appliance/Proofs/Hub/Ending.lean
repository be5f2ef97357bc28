import Appliance.Hub.Listening
import Mathlib.Data.List.Induction

/-!
# How a channel ends for good

Many things end a channel, and after all but one of them a new one may be tried. This file
shows that the one is a close record of the hub that forbids it, and that it counts only
if nothing has ended the channel before.

* `ForbidsReturn` — the first close record among some records forbids a new connection.
* `handle_isPermanent_iff` — records end a channel for good exactly then.
* `Line.EndedForGood` — a channel that was ended for good by what it has taken.
* `endedForGood_of_reason?` — **a channel gives a reason that forbids a new connection only
  if the first thing that has ended it was such a record.**
-/

namespace Appliance.Hub

/-! ## Records -/

/-- `ForbidsReturn records`: the first close record among `records` forbids a new
connection. -/
def ForbidsReturn (records : List String) : Prop :=
  ∃ before record after error, records = before ++ record :: after ∧
    (∀ r ∈ before, ∀ e a, Message.ofRecord? r ≠ some (.close e a)) ∧
    Message.ofRecord? record = some (.close error (some false))

theorem forbidsReturn_cons_close {record : String} {rest : List String} {error : Option String}
    {allow : Option Bool} (h : Message.ofRecord? record = some (.close error allow)) :
    ForbidsReturn (record :: rest) ↔ allow = some false := by
  constructor
  · rintro ⟨before, record', after, error', heq, hbefore, hclose⟩
    cases before with
    | nil =>
      obtain ⟨rfl, -⟩ := List.cons.inj heq
      rw [h] at hclose
      cases hclose
      rfl
    | cons first before =>
      obtain ⟨rfl, -⟩ := List.cons.inj heq
      exact absurd h (hbefore record List.mem_cons_self error allow)
  · rintro rfl
    exact ⟨[], record, rest, error, rfl, by simp, h⟩

theorem forbidsReturn_cons_of_not_close {record : String} {rest : List String}
    (h : ∀ e a, Message.ofRecord? record ≠ some (.close e a)) :
    ForbidsReturn (record :: rest) ↔ ForbidsReturn rest := by
  constructor
  · rintro ⟨before, record', after, error, heq, hbefore, hclose⟩
    cases before with
    | nil =>
      obtain ⟨rfl, -⟩ := List.cons.inj heq
      exact absurd hclose (h _ _)
    | cons first before =>
      obtain ⟨-, rfl⟩ := List.cons.inj heq
      exact ⟨before, record', after, error, rfl,
        fun r hr => hbefore r (List.mem_cons_of_mem _ hr), hclose⟩
  · rintro ⟨before, record', after, error, rfl, hbefore, hclose⟩
    refine ⟨record :: before, record', after, error, rfl, ?_, hclose⟩
    intro r hr
    rcases List.mem_cons.1 hr with rfl | hr
    · exact h
    · exact hbefore r hr

/-- A close record ends a channel for good exactly if it forbids a new connection. -/
theorem isPermanent_closeReason (error : Option String) {allow : Option Bool} :
    (closeReason error allow).isPermanent = true ↔ allow = some false := by
  unfold closeReason
  split
  · simp [DisconnectReason.isPermanent]
  · rename_i hne
    simpa [DisconnectReason.isPermanent] using hne

/-- Records end a channel for good exactly if the first close record among them forbids a
new connection. -/
theorem handle_isPermanent_iff (records : List String) :
    (∃ r, (handle records).2 = some r ∧ r.isPermanent = true) ↔ ForbidsReturn records := by
  induction records with
  | nil => simp [handle, ForbidsReturn]
  | cons record rest ih =>
    unfold handle
    split
    · rename_i error allow hclose
      rw [forbidsReturn_cons_close hclose, ← isPermanent_closeReason error]
      simp
    · rename_i target events hinvocation
      rw [forbidsReturn_cons_of_not_close (by simp [hinvocation])]
      exact ih
    · rename_i hclose hinvocation
      rw [forbidsReturn_cons_of_not_close hclose]
      exact ih

/-! ## Channels -/

/-- The reason with which a channel has ended. -/
def Channel.reason? : Channel → Option DisconnectReason
  | .leaving reason | .over reason => some reason
  | .listening _ _ | .broken => none

/-- `c.EndsForGood`: the channel has ended with a reason that forbids a new connection. -/
def Channel.EndsForGood (c : Channel) : Prop := ∃ r, c.reason? = some r ∧ r.isPermanent = true

namespace Channel

variable {options : Listener.Options} {now : Instant}

theorem reason?_listen : (listen options now).1.reason? = none := by
  unfold listen
  split
  · rfl
  · split <;> rfl

theorem endsForGood_begin {pending : List String}
    (h : (begin options now pending).1.EndsForGood) : ForbidsReturn pending := by
  obtain ⟨r, hr, hperm⟩ := h
  refine (handle_isPermanent_iff pending).1 ⟨r, ?_, hperm⟩
  simp only [begin] at hr
  split at hr
  · rename_i reason hreason
    rw [hreason]
    exact hr
  · rw [reason?_listen] at hr
    simp at hr

/-- A message ends a channel for good only by a record that forbids a new connection. -/
theorem endsForGood_receive {stays : Channel} (hstays : stays.reason? = none)
    {m : WebSocket.Message} (h : (receive stays m).1.EndsForGood) :
    ∃ s, m = .text s ∧ ForbidsReturn (split s) := by
  obtain ⟨r, hr, hperm⟩ := h
  cases m with
  | text s =>
    refine ⟨s, rfl, (handle_isPermanent_iff (split s)).1 ⟨r, ?_, hperm⟩⟩
    simp only [receive, settle] at hr
    split at hr
    · simp [hstays] at hr
    · rename_i reason hreason
      rw [hreason]
      exact hr
  | close notice =>
    simp only [receive, leave, reason?, Option.some.injEq] at hr
    rw [← hr] at hperm
    simp [noticeReason, DisconnectReason.isPermanent] at hperm
  | _ =>
    simp only [receive] at hr
    rw [hstays] at hr
    simp at hr

/-- What is due ends a channel never for good. -/
theorem not_endsForGood_tick {pingDue silenceDue : Instant} :
    ¬ (tick options now pingDue silenceDue).1.EndsForGood := by
  rintro ⟨r, hr, hperm⟩
  unfold tick at hr
  split at hr
  · simp only [leave, reason?, Option.some.injEq] at hr
    rw [← hr] at hperm
    simp [DisconnectReason.isPermanent] at hperm
  · split at hr <;> simp [reason?] at hr

/-- An input ends a channel for good only if that listens, and gets a record that forbids
a new connection. -/
theorem endsForGood_step {c : Channel} {input : Input} (hc : ¬ c.EndsForGood)
    (h : (c.step options now input).1.EndsForGood) :
    (∃ pingDue silenceDue, c = .listening pingDue silenceDue) ∧
      ∃ s, input = .received (.text s) ∧ ForbidsReturn (split s) := by
  cases c with
  | listening pingDue silenceDue =>
    refine ⟨⟨pingDue, silenceDue, rfl⟩, ?_⟩
    cases input with
    | received m =>
      simp only [step] at h
      split at h
      · obtain ⟨s, rfl, hs⟩ := endsForGood_receive rfl h
        exact ⟨s, rfl, hs⟩
      · simp [EndsForGood, breaking, reason?] at h
    | tick => exact absurd h not_endsForGood_tick
    | socketClosed => exact absurd h hc
    | _ =>
      obtain ⟨r, hr, hperm⟩ := h
      simp only [step, leave, reason?, Option.some.injEq] at hr
      rw [← hr] at hperm
      simp [DisconnectReason.isPermanent] at hperm
  | leaving reason => cases input <;> exact absurd h hc
  | «over» reason => cases input <;> exact absurd h hc
  | broken => cases input <;> exact absurd h hc

/-- A channel that is over takes nothing more. -/
theorem step_over {r : DisconnectReason} (input : Input) :
    ((Channel.over r).step options now input).1 = .over r := by
  cases input <;> rfl

theorem step_broken (input : Input) : (broken.step options now input).1 = .broken := by
  cases input <;> rfl

end Channel

/-! ## Lines -/

namespace Line

variable {options : Listener.Options}

theorem after_append (pending : List String) (now : Instant)
    (taken : List (Instant × Channel.Input)) (x : Instant × Channel.Input) :
    after options pending now (taken ++ [x]) =
      ((after options pending now taken).step options x.1 x.2).1 := by
  rw [after, List.foldl_append]
  rfl

/-- `l.EndedForGood options`: the first thing that has ended the channel `l` was a close
record that forbids a new connection. It came together with the hub's answer, or in a text
that the channel got while it listened. -/
def EndedForGood (options : Listener.Options) (l : Line) : Prop :=
  ∃ now, l.began = some now ∧ (ForbidsReturn l.pending ∨
    ∃ before time s later, l.taken = before ++ (time, .received (.text s)) :: later ∧
      (∃ pingDue silenceDue, after options l.pending now before = .listening pingDue silenceDue) ∧
      ForbidsReturn (split s))

theorem endsForGood_after {pending : List String} {now : Instant}
    {taken : List (Instant × Channel.Input)}
    (h : (after options pending now taken).EndsForGood) :
    ForbidsReturn pending ∨
      ∃ before time s later, taken = before ++ (time, .received (.text s)) :: later ∧
        (∃ pingDue silenceDue, after options pending now before = .listening pingDue silenceDue) ∧
        ForbidsReturn (split s) := by
  induction taken using List.reverseRecOn with
  | nil => exact Or.inl (Channel.endsForGood_begin h)
  | append_singleton taken x ih =>
    by_cases hbefore : (after options pending now taken).EndsForGood
    · -- it had ended before the last input
      rcases ih hbefore with hp | ⟨before, time, s, later, rfl, hlistening, hs⟩
      · exact Or.inl hp
      · exact Or.inr ⟨before, time, s, later ++ [x], by simp, hlistening, hs⟩
    · rw [after_append] at h
      obtain ⟨hlistening, s, hx, hs⟩ := Channel.endsForGood_step hbefore h
      refine Or.inr ⟨taken, x.1, s, [], ?_, hlistening, hs⟩
      rw [← hx]

/-- **A channel gives a reason that forbids a new connection only if the first thing that
has ended it was a close record that does.** -/
theorem endedForGood_of_reason? {l : Line} {r : DisconnectReason}
    (h : l.reason? options = some r) (hr : r.isPermanent = true) : l.EndedForGood options := by
  unfold reason? channel? at h
  cases hbegan : l.began with
  | none => simp [hbegan] at h
  | some now =>
    simp only [hbegan, Option.map_some] at h
    refine ⟨now, hbegan, endsForGood_after ?_⟩
    split at h
    · rename_i reason hover
      obtain rfl := Option.some.inj h
      rw [Option.some.inj hover]
      exact ⟨reason, rfl, hr⟩
    · obtain rfl := Option.some.inj h
      simp [DisconnectReason.dropped, DisconnectReason.isPermanent] at hr
    · simp at h

/-- The reason of a channel stands, whatever the channel takes after it. -/
theorem reason?_take {l : Line} {r : DisconnectReason} (h : l.reason? options = some r)
    (x : Instant × Channel.Input) : { l with taken := l.taken ++ [x] }.reason? options = some r := by
  unfold reason? channel? at h ⊢
  cases hbegan : l.began with
  | none => simp [hbegan] at h
  | some now =>
    simp only [hbegan, Option.map_some] at h ⊢
    rw [after_append]
    split at h
    · rename_i reason hover
      rw [Option.some.inj hover, Channel.step_over]
      exact h
    · rename_i hbroken
      rw [Option.some.inj hbroken, Channel.step_broken]
      exact h
    · simp at h

end Line

end Appliance.Hub
