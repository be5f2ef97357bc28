import Appliance.Hub.Held
import Appliance.Proofs.Histories
import Appliance.Proofs.Hub.Tasks

/-!
# What the user of a channel may rely on

The user's calls race with the hub, the clock and the handlers. This file shows that the order
does not matter: the marks that are left always tell how far the channel has come, and each
of them may be seen after those before it.

* `Channel.fate?_step_of_some`, `Channel.input_of_graceful` — a reason that is settled stays,
  and only a shutdown settles a graceful end.
* `Allowed`, `closesProperly_of_regular` — what may be seen next, and what follows from it.
* `Tells`, `tells_step` — the marks tell how far the channel has come, after every step.
* `Reaches`, `Tells.reaches_done` — a channel that has ended or was asked to can be brought to
  its end by its task.
* **`held_channel_closes_properly`** — the user gets exactly one reason, the one settled first,
  before any close returns, and no handler runs after that.
-/

namespace Appliance.Hub

/-! ## How a channel ends -/

namespace Channel

variable {options : Listener.Options} {now : Instant} {c : Channel} {reason : DisconnectReason}

/-- A reason that is given was settled. -/
theorem fate?_of_parted (h : c.parted? = some reason) : c.fate? = some reason := by
  cases c with
  | «over» r => exact h
  | broken => exact h
  | _ => cases h

/-- A reason that is settled stays. -/
theorem fate?_step_of_some (h : c.fate? = some reason) (input : Input) :
    (c.step options now input).1.fate? = some reason := by
  cases c with
  | listening pingDue silenceDue => cases h
  | leaving r => cases input <;> exact h
  | «over» r => cases input <;> exact h
  | broken => cases input <;> exact h

/-- No record ends a channel gracefully. -/
theorem handle_ne_graceful (records : List String) : (handle records).2 ≠ some .graceful := by
  induction records with
  | nil => simp [handle]
  | cons record rest ih =>
    unfold handle
    split
    · next error allow _ =>
      simp only [closeReason]
      split <;> simp
    · exact ih
    · exact ih

theorem fate?_leave (reason : DisconnectReason) : (leave reason).1.fate? = some reason := rfl

theorem fate?_listen_ne_graceful : (listen options now).1.fate? ≠ some .graceful := by
  unfold listen
  split
  · simp [breaking, fate?, DisconnectReason.dropped]
  · split
    · simp [breaking, fate?, DisconnectReason.dropped]
    · simp [fate?]

theorem fate?_begin_ne_graceful (pending : List String) :
    (begin options now pending).1.fate? ≠ some .graceful := by
  have hhandle := handle_ne_graceful pending
  unfold begin
  generalize handle pending = handled at hhandle
  obtain ⟨events, reason⟩ := handled
  cases reason with
  | none => exact fate?_listen_ne_graceful
  | some reason => simpa [fate?_leave] using hhandle

theorem fate?_receive_ne_graceful {stays : Channel} (hstays : stays.fate? = none)
    (m : WebSocket.Message) : (receive stays m).1.fate? ≠ some .graceful := by
  cases m with
  | text s =>
    have hhandle := handle_ne_graceful (split s)
    simp only [receive, settle]
    split
    · simp [hstays]
    · next reason hreason => simpa [fate?_leave, hreason] using hhandle
  | close notice => simp [receive, fate?_leave, noticeReason]
  | _ => simp [receive, hstays]

/-- Only a shutdown ends a channel gracefully. -/
theorem input_of_graceful {input : Input} (h : c.fate? = none)
    (h' : (c.step options now input).1.fate? = some .graceful) : input = .shutdown := by
  cases c with
  | listening pingDue silenceDue =>
    cases input with
    | shutdown => rfl
    | received m =>
      simp only [step] at h'
      split at h'
      · exact absurd h' (fate?_receive_ne_graceful rfl m)
      · simp [breaking, fate?, DisconnectReason.dropped] at h'
    | failed detail => simp [step, fate?_leave] at h'
    | ended => simp [step, fate?_leave] at h'
    | tick =>
      simp only [step, tick] at h'
      split at h'
      · simp [fate?_leave] at h'
      · split at h' <;> simp [fate?] at h'
    | socketClosed => simp [step, fate?] at h'
  | _ => simp [fate?] at h

end Channel

namespace Line

variable {options : Listener.Options} {l : Line} {reason : DisconnectReason}

theorem fate?_of_reason? (h : l.reason? options = some reason) :
    l.fate? options = some reason := by
  rw [reason?_eq] at h
  obtain ⟨c, hc, hparted⟩ := Option.bind_eq_some_iff.1 h
  rw [fate?, hc]
  exact Channel.fate?_of_parted hparted

theorem fate?_of_channel? {c : Channel} (hc : l.channel? options = some c) :
    l.fate? options = c.fate? := by
  rw [fate?, hc]
  rfl

end Line

/-- A task that gives a reason gives that of its channel, and for the first time. -/
theorem ChannelTask.Fits.gives {x : Channel.Effect} {rest : List Channel.Effect}
    {calling : Option Event} {given reason? : Option DisconnectReason} {reason : DisconnectReason}
    (h : Fits ⟨x :: rest, calling, given⟩ reason?) (hx : x.given? = some reason) :
    reason? = some reason ∧ given = none := by
  rcases h with ⟨hquiet, -, -⟩ | ⟨quiet, last, hdue, hquiet, -, hreason, hgiven⟩
  · rw [hquiet x List.mem_cons_self] at hx
    cases hx
  · cases quiet with
    | nil =>
      obtain ⟨rfl, -⟩ : x = last ∧ rest = [] := by simpa using hdue
      exact ⟨hreason.trans hx, hgiven⟩
    | cons y quiet =>
      obtain ⟨rfl, -⟩ : x = y ∧ rest = quiet ++ [last] := by simpa using hdue
      rw [hquiet x List.mem_cons_self] at hx
      cases hx

namespace HeldChannel

/-! ## What may be seen next -/

/-- `Allowed before m`: the mark `m` may be seen after `before`. -/
def Allowed (before : List Mark) : Mark → Prop
  | .closing | .dropped => True
  | .closed => ∃ reason, .notified reason ∈ before
  | .ended reason => .closed ∉ before ∧ (∀ r, .ended r ∉ before) ∧
      (reason = .graceful → .closing ∈ before ∨ .dropped ∈ before)
  | .notified reason => .closed ∉ before ∧ .ended reason ∈ before ∧ ∀ r, .notified r ∉ before
  | .called _ | .returned => .closed ∉ before

/-- The task does nothing after a close that has returned. -/
theorem Allowed.not_closed {before : List Mark} {m : Mark} (h : Allowed before m)
    (hm : m.isWork = true) : .closed ∉ before := by
  cases m with
  | ended reason => exact h.1
  | notified reason => exact h.1
  | called e => exact h
  | returned => exact h
  | _ => cases hm

/-- **Marks of which each may be seen after those before it are what the user of a channel may
rely on.** -/
theorem closesProperly_of_regular {marks : List Mark} (h : Regular Allowed marks) :
    ClosesProperly marks := by
  have hended : ∀ r, .notified r ∈ marks → .ended r ∈ marks := by
    intro r hr
    obtain ⟨before, after, rfl⟩ := List.append_of_mem hr
    have hbefore := (h before _ after rfl).2.1
    simp [hbefore]
  have hunique : ∀ before reason after, marks = before ++ .ended reason :: after →
      ∀ r, .ended r ∉ before ∧ .ended r ∉ after := by
    intro before reason after hsplit r
    refine ⟨(h _ _ _ hsplit).2.1 r, fun hr => ?_⟩
    obtain ⟨before', hmem, -, hallowed⟩ := h.later hsplit hr
    exact hallowed.2.1 reason hmem
  constructor
  · intro before reason after hsplit
    obtain ⟨-, hreason, hnone⟩ := h _ _ _ hsplit
    refine ⟨hreason, fun r => ⟨hnone r, fun hr => ?_⟩⟩
    obtain ⟨before', hmem, -, hallowed⟩ := h.later hsplit hr
    exact hallowed.2.2 reason hmem
  · intro before after hsplit
    refine ⟨h _ _ _ hsplit, fun m hm => ?_⟩
    obtain ⟨before', hmem, -, hallowed⟩ := h.later hsplit hm
    by_contra hwork
    exact hallowed.not_closed (by simpa using hwork) hmem
  · intro before reason after hsplit
    refine ⟨hunique before reason after hsplit, fun r hr => ?_⟩
    have hmem := hended r hr
    rw [hsplit] at hmem
    obtain ⟨hbefore, hafter⟩ := hunique before reason after hsplit r
    rcases List.mem_append.1 hmem with hmem | hmem
    · exact absurd hmem hbefore
    · rcases List.mem_cons.1 hmem with hmem | hmem
      · exact Mark.ended.inj hmem
      · exact absurd hmem hafter
  · intro before after hsplit
    exact (h _ _ _ hsplit).2.2 rfl

/-! ## What the marks tell -/

/-- `Tells marks w`: the marks have led to `w`, and tell how far it has come. -/
structure Tells (marks : List Mark) (w : HeldChannel) : Prop where
  regular : Regular Allowed marks
  orderly : w.line.Orderly
  fits : w.task.Fits (w.line.reason? w.options)
  ended : ∀ r, .ended r ∈ marks ↔ w.line.fate? w.options = some r
  notified : ∀ r, .notified r ∈ marks ↔ w.task.given = some r
  asked : w.line.asked = true ↔ .closing ∈ marks ∨ .dropped ∈ marks
  asks : w.asks = !w.line.asked
  closed : .closed ∈ marks → w.task.isDone = true
  /-- There is nothing to wait for only after a close that has returned. -/
  free : w.waits = false → w.closing = false → w.dropped = false → .closed ∈ marks

theorem tells_fresh (options : Listener.Options) (pending : List String)
    (subscriptions : Subscriptions Handler) : Tells [] (fresh options pending subscriptions) where
  regular := regular_nil
  orderly _ := rfl
  fits := ChannelTask.fits_fresh
  ended := by simp [fresh, Line.fate?, Line.channel?, Line.fresh]
  notified := by simp [fresh, ChannelTask.fresh]
  asked := by simp [fresh, Line.fresh]
  asks := rfl
  closed := by simp
  free := by simp [fresh]

/-- What the handlers do leaves the channel alone. -/
theorem deliver_keeps (w : HeldChannel) (x : Channel.Effect) :
    (w.deliver x).line = w.line ∧ (w.deliver x).options = w.options ∧
      (w.deliver x).task = w.task := by
  cases x <;> exact ⟨rfl, rfl, rfl⟩

section Tells

variable {marks : List Mark} {w : HeldChannel} (h : Tells marks w)
include h

/-- The task has given its reason once it is done. -/
theorem Tells.given_of_closed (hc : .closed ∈ marks) : ∃ r, w.task.given = some r :=
  (ChannelTask.isDone_iff.1 (h.closed hc)).2

/-- A reason that was given was settled. -/
theorem Tells.fate_of_given {r : DisconnectReason} (hr : w.task.given = some r) :
    w.line.fate? w.options = some r := by
  rcases h.fits with ⟨-, hgiven, -⟩ | ⟨-, -, -, -, -, -, hgiven⟩
  · exact Line.fate?_of_reason? (hgiven.symm.trans hr)
  · rw [hgiven] at hr
    cases hr

/-- While a task is at work, no close has returned. -/
theorem Tells.not_closed (hd : w.task.isDone = false) : .closed ∉ marks := by
  intro hc
  rw [h.closed hc] at hd
  cases hd

theorem Tells.subscribe (op : Operation) : Tells marks (w.subscribe op) :=
  ⟨h.regular, h.orderly, h.fits, h.ended, h.notified, h.asked, h.asks, h.closed, h.free⟩

theorem Tells.deliver (x : Channel.Effect) : Tells marks (w.deliver x) := by
  cases x with
  | deliver e => exact h.subscribe (.dispatch e)
  | _ => exact h

/-! ## The task -/

/-- A channel goes on with its idle task: a reason may be settled, and one that is settled
stays. -/
theorem Tells.goes_on {line : Line} {effects : List Channel.Effect} (horderly : line.Orderly)
    (hasked : line.asked = w.line.asked)
    (hfits : ChannelTask.Fits { w.task with due := effects } (line.reason? w.options))
    (hstays : ∀ r, w.line.fate? w.options = some r → line.fate? w.options = some r)
    (hdone : w.task.isDone = true → effects = [])
    (hgraceful : w.line.fate? w.options = none → line.fate? w.options = some .graceful →
      w.line.asked = true) :
    Tells (marks ++ if (w.line.fate? w.options).isSome then []
        else (line.fate? w.options).toList.map .ended)
      { w with line, task := { w.task with due := effects } } := by
  cases hfate : w.line.fate? w.options with
  | some r =>
    have hended : ∀ r, .ended r ∈ marks ↔ line.fate? w.options = some r := by
      rw [hstays r hfate, ← hfate]
      exact h.ended
    have hclosed : .closed ∈ marks → ChannelTask.isDone { w.task with due := effects } = true := by
      intro hc
      have hd := h.closed hc
      obtain ⟨hidle, -⟩ := ChannelTask.isDone_iff.1 hd
      have hsame : { w.task with due := effects } = w.task := by
        rw [hdone hd, ← (ChannelTask.isIdle_iff.1 hidle).1]
      rw [hsame]
      exact hd
    simp only [Option.isSome_some, if_true, List.append_nil]
    exact ⟨h.regular, horderly, hfits, hended, h.notified, hasked ▸ h.asked, hasked ▸ h.asks,
      hclosed, h.free⟩
  | none =>
    have hnone : ∀ r, .ended r ∉ marks := by
      intro r hr
      rw [(h.ended r).1 hr] at hfate
      cases hfate
    have hopen : .closed ∉ marks := by
      intro hc
      obtain ⟨r, hr⟩ := h.given_of_closed hc
      rw [h.fate_of_given hr] at hfate
      cases hfate
    cases hline : line.fate? w.options with
    | none =>
      have hended : ∀ r, .ended r ∈ marks ↔ line.fate? w.options = some r := by
        simp [hnone, hline]
      simp only [Option.isSome_none, Option.toList_none, List.map_nil, List.append_nil, ite_self]
      exact ⟨h.regular, horderly, hfits, hended, h.notified, hasked ▸ h.asked, hasked ▸ h.asks,
        fun hc => absurd hc hopen, h.free⟩
    | some r =>
      have hallowed : Allowed marks (.ended r) := by
        refine ⟨hopen, hnone, ?_⟩
        rintro rfl
        exact h.asked.1 (hgraceful hfate hline)
      have hended : ∀ r', .ended r' ∈ marks ++ [.ended r] ↔ line.fate? w.options = some r' := by
        simp [hnone, hline, eq_comm]
      refine ⟨h.regular.snoc hallowed, horderly, hfits, hended, ?_, ?_, hasked ▸ h.asks, ?_, ?_⟩
      · simpa using h.notified
      · simpa [hasked] using h.asked
      · simp [hopen]
      · intro hw hc hd
        simpa using h.free hw hc hd

theorem Tells.begins {now : Instant} (hidle : w.task.isIdle = true) (hbegan : w.line.began = none) :
    Tells (marks ++ if (w.line.fate? w.options).isSome then []
        else (Line.fate? w.options { w.line with began := some now }).toList.map .ended)
      { w with
        line := { w.line with began := some now }
        task := { w.task with due := (Channel.begin w.options now w.line.pending).2 } } := by
  have hchannel : Line.channel? w.options { w.line with began := some now } = _ :=
    Line.channel?_began h.orderly hbegan now
  have hreason : w.line.reason? w.options = none := by simp [Line.reason?_eq, Line.channel?, hbegan]
  have hfate : w.line.fate? w.options = none := by simp [Line.fate?, Line.channel?, hbegan]
  have hfits := h.fits
  rw [hreason] at hfits
  refine h.goes_on ?_ rfl ?_ ?_ ?_ ?_
  · intro hnever
    cases hnever
  · rw [Line.reason?_eq, hchannel]
    exact hfits.turn hidle (Channel.parts_begin w.line.pending)
  · intro r hr
    rw [hfate] at hr
    cases hr
  · intro hd
    obtain ⟨-, r, hr⟩ := ChannelTask.isDone_iff.1 hd
    rw [hfits.of_idle hidle] at hr
    cases hr
  · intro _ hline
    rw [Line.fate?_of_channel? hchannel] at hline
    exact absurd hline (Channel.fate?_begin_ne_graceful w.line.pending)

theorem Tells.takes {now : Instant} {input : Channel.Input} {c : Channel}
    (hidle : w.task.isIdle = true) (hc : w.line.channel? w.options = some c)
    (hadmits : HubListener.admits w.line input = true) :
    Tells (marks ++ if (w.line.fate? w.options).isSome then []
        else (Line.fate? w.options
          { w.line with taken := w.line.taken ++ [(now, input)] }).toList.map .ended)
      { w with
        line := { w.line with taken := w.line.taken ++ [(now, input)] }
        task := { w.task with due := (c.step w.options now input).2 } } := by
  have hchannel := Line.channel?_took hc now input
  have hfate := Line.fate?_of_channel? hc
  have hfits := h.fits
  rw [Line.reason?_eq, hc, Option.bind_some] at hfits
  refine h.goes_on ?_ rfl ?_ ?_ ?_ ?_
  · intro hbegan
    have hnever : w.line.began = none := hbegan
    simp [Line.channel?, hnever] at hc
  · rw [Line.reason?_eq, hchannel, Option.bind_some]
    cases hparted : c.parted? with
    | none =>
      rw [hparted] at hfits
      exact hfits.turn hidle (Channel.parts_step hparted input)
    | some reason =>
      rw [Channel.step_of_parted hparted input]
      have hsame : { w.task with due := [] } = w.task := by
        rw [← (ChannelTask.isIdle_iff.1 hidle).1]
      rw [hsame]
      exact hfits
  · intro r hr
    rw [hfate] at hr
    rw [Line.fate?_of_channel? hchannel]
    exact Channel.fate?_step_of_some hr input
  · intro hd
    obtain ⟨-, r, hr⟩ := ChannelTask.isDone_iff.1 hd
    rw [hfits.of_idle hidle] at hr
    rw [Channel.step_of_parted hr input]
  · intro hnone hline
    rw [Line.fate?_of_channel? hchannel] at hline
    rw [hfate] at hnone
    obtain rfl := Channel.input_of_graceful hnone hline
    exact hadmits

theorem Tells.turn (e : Event) : Tells (marks ++ (w.turn e).2) (w.turn e).1 := by
  unfold HeldChannel.turn
  split
  · next line effects hturn =>
    split
    · next hidle =>
      cases e with
      | began now =>
        simp only [turning?] at hturn
        split at hturn
        · cases hturn
        · next hbegan =>
          cases hturn
          exact h.begins hidle (by simpa using hbegan)
      | took now input =>
        simp only [turning?] at hturn
        split at hturn
        · next c hc =>
          split at hturn
          · next hadmits =>
            cases hturn
            exact h.takes hidle hc hadmits
          · cases hturn
        · cases hturn
      | _ => cases hturn
    · simpa using h
  · simpa using h

/-- A mark of a task that is at work. -/
theorem Tells.works {m : Mark} (hallowed : Allowed marks m) {task : ChannelTask}
    (hfits : task.Fits (w.line.reason? w.options)) (hopen : .closed ∉ marks)
    (hended : ∀ r, m ≠ .ended r) (hclosed : m ≠ .closed) (hclosing : m ≠ .closing)
    (hdropped : m ≠ .dropped)
    (hnotified : ∀ r, .notified r ∈ marks ++ [m] ↔ task.given = some r) :
    Tells (marks ++ [m]) { w with task } := by
  refine ⟨h.regular.snoc hallowed, h.orderly, hfits, ?_, hnotified, ?_, h.asks, ?_, ?_⟩
  · intro r
    simpa [(hended r).symm] using h.ended r
  · simpa [hclosing.symm, hdropped.symm] using h.asked
  · simp [hopen, hclosed.symm]
  · intro hw hc hd
    simpa [hopen] using h.free hw hc hd

/-- The task goes on without a mark. -/
theorem Tells.works_unseen {task : ChannelTask} (hfits : task.Fits (w.line.reason? w.options))
    (hopen : .closed ∉ marks) (hgiven : task.given = w.task.given) :
    Tells marks { w with task } :=
  ⟨h.regular, h.orderly, hfits, h.ended, hgiven ▸ h.notified, h.asked, h.asks,
    fun hc => absurd hc hopen, h.free⟩

theorem Tells.carry : Tells (marks ++ w.carry.2) w.carry.1 := by
  unfold HeldChannel.carry
  split
  · next x rest hcalling hdue =>
    have htask : w.task = ⟨x :: rest, none, w.task.given⟩ := by
      rw [← hcalling, ← hdue]
    have hopen : .closed ∉ marks := by
      refine h.not_closed ?_
      simp [ChannelTask.isDone, ChannelTask.isIdle, hdue]
    have hfits := h.fits
    rw [htask] at hfits
    have hdelivered := h.deliver x
    obtain ⟨hline, hoptions, hsame⟩ := deliver_keeps w x
    have hfits' : ∀ calling, (x.given?.isSome = true → calling = none) →
        ChannelTask.Fits ⟨rest, calling, x.given?.or w.task.given⟩
          ((w.deliver x).line.reason? (w.deliver x).options) := by
      intro calling hcalling'
      rw [hline, hoptions]
      exact hfits.carry hcalling'
    cases hgiven : x.given? with
    | some reason =>
      obtain ⟨hreason, hnone⟩ := hfits.gives hgiven
      have hcalls : w.called? x = none := by
        cases x <;> first | rfl | cases hgiven
      have hnotified : ∀ r, .notified r ∉ marks := by
        intro r hr
        rw [(h.notified r).1 hr] at hnone
        cases hnone
      have hallowed : Allowed marks (.notified reason) :=
        ⟨hopen, (h.ended reason).2 (Line.fate?_of_reason? hreason), hnotified⟩
      simp only [hcalls, Option.toList_none, List.map_nil, List.nil_append, Option.toList_some,
        List.map_cons]
      have hgives := hfits' none (fun _ => rfl)
      rw [hgiven] at hgives
      refine hdelivered.works hallowed hgives hopen (by simp) (by simp) (by simp) (by simp) ?_
      simp [hnotified, eq_comm]
    | none =>
      have hgives := hfits' (w.called? x) (by simp [hgiven])
      rw [hgiven] at hgives
      cases hcalls : w.called? x with
      | none =>
        rw [hcalls] at hgives
        simpa using hdelivered.works_unseen hgives hopen (by simp [hsame])
      | some e =>
        rw [hcalls] at hgives
        have hallowed : Allowed marks (.called e) := hopen
        simp only [Option.toList_some, Option.toList_none, List.map_cons, List.map_nil,
          List.append_nil]
        refine hdelivered.works hallowed hgives hopen (by simp) (by simp) (by simp) (by simp) ?_
        simpa using h.notified
  · simpa using h

theorem Tells.finish : Tells (marks ++ w.finish.2) w.finish.1 := by
  unfold HeldChannel.finish
  split
  · next hcalling =>
    have hopen : .closed ∉ marks := by
      refine h.not_closed ?_
      have hbusy : w.task.calling.isNone = false := by
        rw [← Option.not_isSome, hcalling]
        rfl
      simp [ChannelTask.isDone, ChannelTask.isIdle, hbusy]
    have hallowed : Allowed marks .returned := hopen
    refine h.works hallowed h.fits.finish hopen (by simp) (by simp) (by simp) (by simp) ?_
    simpa using h.notified
  · simpa using h

/-! ## The user -/

/-- The user asks the task to end the channel, which leaves the channel where it is. -/
theorem Tells.asks_end {m : Mark} (hm : m = .closing ∨ m = .dropped) {waits closing dropped : Bool}
    (hfree : waits = false → closing = false → dropped = false → .closed ∈ marks) :
    Tells (marks ++ [m]) { w.ask with waits, closing, dropped } := by
  have hallowed : Allowed marks m := by
    rcases hm with rfl | rfl <;> trivial
  have hasked : w.ask.line.asked = true := by
    have hasks := h.asks
    simp only [ask]
    cases hasked : w.line.asked <;> simp [hasked] at hasks ⊢
    exact hasks
  have hended : ∀ r, .ended r ∈ marks ++ [m] ↔ .ended r ∈ marks := by
    rcases hm with rfl | rfl <;> simp
  have hnotified : ∀ r, .notified r ∈ marks ++ [m] ↔ .notified r ∈ marks := by
    rcases hm with rfl | rfl <;> simp
  refine ⟨h.regular.snoc hallowed, h.orderly, h.fits, fun r => (hended r).trans (h.ended r),
    fun r => (hnotified r).trans (h.notified r), ?_, ?_, ?_, ?_⟩
  · rcases hm with rfl | rfl <;> simp [hasked]
  · simp only [hasked]
    rfl
  · intro hc
    refine h.closed ?_
    rcases hm with rfl | rfl <;> simpa using hc
  · intro hw hc hd
    simp [hfree hw hc hd]

/-- A close returns once the task is done. -/
theorem Tells.returns (hd : w.task.isDone = true) :
    Tells (marks ++ [.closed]) { w with closing := false } := by
  obtain ⟨-, r, hr⟩ := ChannelTask.isDone_iff.1 hd
  have hallowed : Allowed marks .closed := ⟨r, (h.notified r).2 hr⟩
  refine ⟨h.regular.snoc hallowed, h.orderly, h.fits, ?_, ?_, ?_, h.asks, fun _ => hd, ?_⟩
  · simpa using h.ended
  · simpa using h.notified
  · simpa using h.asked
  · simp

theorem Tells.close (hc : w.closing = false) (hd : w.dropped = false) :
    Tells (marks ++ w.close.2) w.close.1 := by
  unfold HeldChannel.close
  split
  · next hw => exact h.asks_end (.inl rfl) (by simp)
  · next hw =>
    have hw : w.waits = false := by simpa using hw
    have hclosed := h.free hw hc hd
    have hasked : Tells (marks ++ [.closing]) { w.ask with closing := w.closing } :=
      h.asks_end (.inl rfl) fun _ _ _ => hclosed
    have hreturned := hasked.returns (h.closed hclosed)
    simpa [ask, hc] using hreturned

end Tells

/-- Whatever happens, the marks tell it. -/
theorem tells_step {marks : List Mark} {w : HeldChannel} (h : Tells marks w) (e : Event) :
    Tells (marks ++ (w.step e).2) (w.step e).1 := by
  cases e with
  | began now => exact h.turn (.began now)
  | took now input => exact h.turn (.took now input)
  | carried => exact h.carry
  | returned => exact h.finish
  | close =>
    simp only [step]
    split
    · simpa using h
    · next hfree =>
      obtain ⟨hc, hd⟩ : w.closing = false ∧ w.dropped = false := by simpa using hfree
      exact h.close hc hd
  | closed =>
    simp only [step]
    split
    · next hdone =>
      obtain ⟨-, hdone⟩ : w.closing = true ∧ w.task.isDone = true := by simpa using hdone
      exact h.returns hdone
    · simpa using h
  | drop =>
    simp only [step]
    split
    · simpa using h
    · exact h.asks_end (.inr rfl) (by simp)
  | subscribe op => simpa [step] using h.subscribe op

theorem tells_run {marks : List Mark} {w : HeldChannel} (h : Tells marks w) (events : List Event) :
    Tells (marks ++ (w.run events).2) (w.run events).1 := by
  induction events generalizing marks w with
  | nil => simpa [run] using h
  | cons e rest ih =>
    have hrest := ih (tells_step h e)
    rwa [List.append_assoc] at hrest

/-! ## The end -/

/-- `Reaches w goal`: the task of `w` and its handlers can bring about the goal by themselves. -/
def Reaches (w : HeldChannel) (goal : HeldChannel → Prop) : Prop :=
  ∃ more, (∀ e ∈ more, e.isOwn = true) ∧ goal (w.run more).1

theorem run_append_fst (w : HeldChannel) (events events' : List Event) :
    (w.run (events ++ events')).1 = ((w.run events).1.run events').1 := by
  induction events generalizing w with
  | nil => rfl
  | cons e rest ih => exact ih (w.step e).1

section Reaches

variable {w : HeldChannel} {goal goal' : HeldChannel → Prop}

theorem Reaches.here (h : goal w) : Reaches w goal := ⟨[], by simp, h⟩

theorem Reaches.step {e : Event} (he : e.isOwn = true) (h : Reaches (w.step e).1 goal) :
    Reaches w goal := by
  obtain ⟨more, hmore, hgoal⟩ := h
  exact ⟨e :: more, List.forall_mem_cons.2 ⟨he, hmore⟩, hgoal⟩

theorem Reaches.trans (h : Reaches w goal) (h' : ∀ w', goal w' → Reaches w' goal') :
    Reaches w goal' := by
  obtain ⟨more, hmore, hgoal⟩ := h
  obtain ⟨more', hmore', hgoal'⟩ := h' _ hgoal
  refine ⟨more ++ more', List.forall_mem_append.2 ⟨hmore, hmore'⟩, ?_⟩
  rw [run_append_fst]
  exact hgoal'

/-- A task can perform all that it has to. -/
theorem reaches_idle (w : HeldChannel) :
    Reaches w fun w' => w'.task.isIdle = true ∧ w'.line = w.line ∧ w'.options = w.options := by
  -- by what the task has still to perform; before each effect the handler of the last returns
  induction hn : w.task.due generalizing w with
  | nil =>
    refine .step (e := .returned) rfl (.here ?_)
    cases hcalling : w.task.calling <;>
      simp [step, finish, hcalling, ChannelTask.isIdle, hn]
  | cons x rest ih =>
    refine .step (e := .returned) rfl ?_
    have hreturned : ∃ w₁, (w.step .returned).1 = w₁ ∧ w₁.task.calling = none ∧
        w₁.task.due = x :: rest ∧ w₁.line = w.line ∧ w₁.options = w.options := by
      refine ⟨_, rfl, ?_⟩
      cases hcalling : w.task.calling <;> simp [step, finish, hcalling, hn]
    obtain ⟨w₁, hw₁, hcalling, hdue, hline, hoptions⟩ := hreturned
    rw [hw₁]
    refine .step (e := .carried) rfl ?_
    have hcarried : (w₁.step .carried).1.task.due = rest ∧
        (w₁.step .carried).1.line = w.line ∧ (w₁.step .carried).1.options = w.options := by
      obtain ⟨hline', hoptions', -⟩ := deliver_keeps w₁ x
      simp [step, carry, hcalling, hdue, hline', hoptions', hline, hoptions]
    obtain ⟨hrest, hline', hoptions'⟩ := hcarried
    have hidle := ih (w₁.step .carried).1 hrest
    rwa [hline', hoptions'] at hidle

end Reaches

/-- `Idle c asked w`: the task of `w` has nothing to perform, and its channel has come to `c`. -/
structure Idle (c : Channel) (asked : Bool) (w : HeldChannel) : Prop where
  idle : w.task.isIdle = true
  channel : w.line.channel? w.options = some c
  asked : w.line.asked = asked
  tells : ∃ marks, Tells marks w

section Idle

variable {marks : List Mark} {w : HeldChannel} {c : Channel} {asked : Bool} {now : Instant}

/-- A task that has got an input, or has begun, can perform what comes of it. -/
theorem reaches_idle_of_step {e : Event} (he : e.isOwn = true) (h : Tells marks w)
    (hchannel : (w.step e).1.line.channel? (w.step e).1.options = some c)
    (hasked : (w.step e).1.line.asked = asked) : Reaches w (Idle c asked) := by
  have htells := tells_step h e
  refine .step he ?_
  obtain ⟨more, hmore, hidle, hline, hoptions⟩ := reaches_idle (w.step e).1
  exact ⟨more, hmore, hidle, by rw [hline, hoptions, hchannel], by rw [hline, hasked],
    _, tells_run htells more⟩

/-- A channel can begin. -/
theorem reaches_begun (h : Tells marks w) (hidle : w.task.isIdle = true)
    (hbegan : w.line.began = none) (now : Instant) :
    Reaches w (Idle (Channel.begin w.options now w.line.pending).1 w.line.asked) := by
  have hstep : (w.step (.began now)).1.line = { w.line with began := some now } ∧
      (w.step (.began now)).1.options = w.options := by
    simp [step, turn, turning?, hbegan, hidle]
  obtain ⟨hline, hoptions⟩ := hstep
  refine reaches_idle_of_step (e := .began now) rfl h ?_ ?_
  · rw [hline, hoptions]
    exact Line.channel?_began h.orderly hbegan now
  · rw [hline]

/-- A channel can take an input. -/
theorem Idle.takes (h : Idle c asked w) {input : Channel.Input}
    (hown : (Event.took now input).isOwn = true)
    (hadmits : HubListener.admits w.line input = true) :
    Reaches w (Idle (c.step w.options now input).1 asked) := by
  obtain ⟨hidle, hc, hasked, marks, htells⟩ := h
  have hstep : (w.step (.took now input)).1.line =
        { w.line with taken := w.line.taken ++ [(now, input)] } ∧
      (w.step (.took now input)).1.options = w.options := by
    simp [step, turn, turning?, hc, hadmits, hidle]
  obtain ⟨hline, hoptions⟩ := hstep
  refine reaches_idle_of_step hown htells ?_ ?_
  · rw [hline, hoptions]
    exact Line.channel?_took hc now input
  · rw [hline, hasked]

/-- A task that has nothing to perform once its channel is gone is done. -/
theorem Idle.isDone (h : Idle c asked w) {reason : DisconnectReason}
    (hc : c.parted? = some reason) : w.task.isDone = true := by
  obtain ⟨hidle, hchannel, -, marks, htells⟩ := h
  have hgiven := htells.fits.of_idle hidle
  rw [Line.reason?_eq, hchannel, Option.bind_some, hc] at hgiven
  exact ChannelTask.isDone_iff.2 ⟨hidle, reason, hgiven⟩

/-- **A channel that has ended or was asked to can be brought to its end.** -/
theorem Idle.reaches_done (h : Idle c asked w) (hend : asked = true ∨ c.fate?.isSome = true) :
    Reaches w fun w' => w'.task.isDone = true := by
  have hleaving : ∀ reason w', Idle (.leaving reason) asked w' →
      Reaches w' fun w'' => w''.task.isDone = true := by
    intro reason w' h'
    have hown : (Event.took 0 .socketClosed).isOwn = true := rfl
    have htakes := h'.takes hown rfl
    exact htakes.trans fun w'' h'' => .here (h''.isDone rfl)
  cases c with
  | listening pingDue silenceDue =>
    have hasked : asked = true := by simpa [Channel.fate?] using hend
    have hown : (Event.took 0 .shutdown).isOwn = true := rfl
    have htakes := h.takes hown (by simp [HubListener.admits, h.asked, hasked])
    exact htakes.trans fun w' h' => hleaving .graceful w' h'
  | leaving reason => exact hleaving reason w h
  | «over» reason => exact .here (h.isDone rfl)
  | broken => exact .here (h.isDone rfl)

/-- The same, wherever the task has come to. -/
theorem Tells.reaches_done (h : Tells marks w)
    (hend : w.line.asked = true ∨ (w.line.fate? w.options).isSome = true) :
    Reaches w fun w' => w'.task.isDone = true := by
  obtain ⟨more, hmore, hidle, hline, hoptions⟩ := reaches_idle w
  have htells := tells_run h more
  have hreach : Reaches w fun w' => w' = (w.run more).1 := ⟨more, hmore, rfl⟩
  refine hreach.trans ?_
  rintro w' rfl
  cases hbegan : w.line.began with
  | none =>
    have hasked : w.line.asked = true := by
      simpa [Line.fate?, Line.channel?, hbegan] using hend
    refine (reaches_begun htells hidle (by rw [hline, hbegan]) 0).trans fun w'' h'' => ?_
    exact h''.reaches_done (.inl (by rw [hline, hasked]))
  | some now =>
    have hchannel : w.line.channel? w.options =
        some (Line.after w.options w.line.pending now w.line.taken) := by
      simp [Line.channel?, hbegan]
    have hstands : Idle (Line.after w.options w.line.pending now w.line.taken) w.line.asked
        (w.run more).1 := by
      refine ⟨hidle, ?_, by rw [hline], _, htells⟩
      rw [hline, hoptions]
      exact hchannel
    rw [Line.fate?_of_channel? hchannel] at hend
    exact hstands.reaches_done hend

end Idle

/-- Whether a close is under way is the user's business. -/
theorem closing_step {e : Event} (he : e.isOwn = true) (w : HeldChannel) :
    (w.step e).1.closing = w.closing := by
  have hturn : ∀ e, (w.turn e).1.closing = w.closing := by
    intro e
    unfold turn
    split
    · split <;> rfl
    · rfl
  have hcarry : w.carry.1.closing = w.closing := by
    unfold carry
    split
    · next x rest _ _ => cases x <;> rfl
    · rfl
  have hfinish : w.finish.1.closing = w.closing := by
    unfold finish
    split <;> rfl
  cases e with
  | began now => exact hturn _
  | took now input => exact hturn _
  | carried => exact hcarry
  | returned => exact hfinish
  | _ => cases he

theorem closing_run {events : List Event} (he : ∀ e ∈ events, e.isOwn = true) (w : HeldChannel) :
    (w.run events).1.closing = w.closing := by
  induction events generalizing w with
  | nil => rfl
  | cons e rest ih =>
    obtain ⟨hfirst, hrest⟩ := List.forall_mem_cons.1 he
    rw [run, ih hrest, closing_step hfirst]

/-- Where the task is done, the user has got one reason. -/
theorem Tells.reasons_eq {marks : List Mark} {w : HeldChannel} (h : Tells marks w)
    (hdone : w.task.isDone = true) : ∃ r, reasons marks = [r] := by
  obtain ⟨-, r, hr⟩ := ChannelTask.isDone_iff.1 hdone
  obtain ⟨before, after, hsplit⟩ := List.append_of_mem ((h.notified r).2 hr)
  have hnone := ((closesProperly_of_regular h.regular).once before r after hsplit).2
  have hempty : ∀ part : List Mark, (∀ r', .notified r' ∉ part) → reasons part = [] := by
    intro part hpart
    refine List.filterMap_eq_nil_iff.2 fun m hm => ?_
    cases m with
    | notified r' => exact absurd hm (hpart r')
    | _ => rfl
  refine ⟨r, ?_⟩
  rw [hsplit, reasons, List.filterMap_append, List.filterMap_cons]
  have hbefore := hempty before fun r' => (hnone r').1
  have hafter := hempty after fun r' => (hnone r').2
  rw [reasons] at hbefore hafter
  rw [hbefore, hafter]
  rfl

/-! ## The contract -/

/-- **A channel closes properly.**  However the calls of close, the giving up, the hub, the
clock and the handlers come in between: the user gets one reason at most, which is the one
that was settled first; where a close returns, the reason was given and no handler of the
channel runs any more; and the reason is graceful only if a close or the giving up came before
any other end. Once the channel has ended, was closed or was given up, its task and its
handlers can bring it to where the user has got exactly one reason and a close under way
returns. That they do presumes that what the task sends is sent: a send that never returns
keeps the task, and with it the close that waits for it. -/
theorem held_channel_closes_properly (options : Listener.Options) (pending : List String)
    (subscriptions : Subscriptions Handler) (events : List Event) :
    let w := (fresh options pending subscriptions).run events
    ClosesProperly w.2 ∧
      (.closing ∈ w.2 ∨ .dropped ∈ w.2 ∨ (∃ r, .ended r ∈ w.2) →
        ∃ more, (∀ e ∈ more, e.isOwn = true) ∧
          (∃ r, reasons (w.2 ++ (w.1.run more).2) = [r]) ∧
          (w.1.closing = true → ((w.1.run more).1.step .closed).2 = [.closed])) := by
  intro w
  have htells : Tells w.2 w.1 := tells_run (tells_fresh options pending subscriptions) events
  refine ⟨closesProperly_of_regular htells.regular, fun hend => ?_⟩
  have hends : w.1.line.asked = true ∨ (w.1.line.fate? w.1.options).isSome = true := by
    rcases hend with hclosing | hdropped | ⟨r, hr⟩
    · exact .inl (htells.asked.2 (.inl hclosing))
    · exact .inl (htells.asked.2 (.inr hdropped))
    · exact .inr (by simp [(htells.ended r).1 hr])
  obtain ⟨more, hmore, hdone⟩ := htells.reaches_done hends
  refine ⟨more, hmore, (tells_run htells more).reasons_eq hdone, fun hclosing => ?_⟩
  have hstill := closing_run hmore w.1
  simp [step, hstill, hclosing, hdone]

/-- The hub closes the websocket before the user closes the channel, closes it again and gives
it up: the reason stays that of the hub. -/
theorem held_channel_closes_properly_crossed :
    let gone : DisconnectReason := .serverInitiated none
    let events : List Event :=
      [.began 0, .took 5 (.received (.close none)), .close, .carried, .closed,
        .took 6 .socketClosed, .carried, .closed, .close, .drop]
    let w := (fresh .standard [] .empty).run events
    w.2 = [.ended gone, .closing, .notified gone, .closed, .closing, .closed, .dropped] ∧
      (∀ m ∈ [Mark.closing, .closed, .dropped], m.isWork = false) ∧
      ∃ more, (∀ e ∈ more, e.isOwn = true) ∧ ∃ r, reasons (w.2 ++ (w.1.run more).2) = [r] := by
  intro gone events w
  have hmarks : w.2 = [.ended gone, .closing, .notified gone, .closed, .closing, .closed,
      .dropped] := by decide
  obtain ⟨hproper, hends⟩ := held_channel_closes_properly .standard [] .empty events
  obtain ⟨more, hmore, hreasons, -⟩ := hends (.inl (by rw [hmarks]; decide))
  exact ⟨hmarks, (hproper.returns [.ended gone, .closing, .notified gone] _ hmarks).2, more, hmore,
    hreasons⟩

end HeldChannel

end Appliance.Hub
