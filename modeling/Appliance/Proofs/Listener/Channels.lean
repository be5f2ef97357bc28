import Appliance.Proofs.Listener.Rules

/-!
# The channels of a listener

A listener holds one channel at a time, asks it to close once, and waits for its end
before it shows another state, opens the next channel or ends a call that stops it.

* `Phase`            — what becomes of one channel after another.
* `channelRule`      — the rule that a log obeys about its channels.
* `kept_channelRule` — every single move obeys it.
* `tally`            — what such a log has opened, asked to close and seen closed.
* `channels_close_once_and_in_time` — **the channels opened, asked to close and closed are
  the same ones in the same order, up to the one that is held; none is held when the state
  changes, the next one is asked for or a call that stops the listener returns.**
-/

namespace Appliance

namespace Listener

/-! ## Channels in a log -/

/-- The channels that were opened. -/
def openedIn (lines : List LogLine) : List Nat :=
  lines.filterMap fun
    | .heard (.opened (.ok channel)) => some channel
    | _ => none

/-- The channels that were asked to close. -/
def askedIn (lines : List LogLine) : List Nat :=
  lines.filterMap fun
    | .did (.close channel) => some channel
    | _ => none

/-- The channels that have closed. -/
def closedIn (lines : List LogLine) : List Nat :=
  lines.filterMap fun
    | .heard (.closed channel) => some channel
    | _ => none

/-- `NeedsClosed served line`: while the call `served` is being served, the line tells of
something that has to wait until every channel has closed. -/
def NeedsClosed (served : Option (Nat × Call)) : LogLine → Prop
  | .did (.show state) => state ≠ .connected
  | .did (.openChannel _) => True
  | .did (.reply _ _) => ∃ ticket c, served = some (ticket, c) ∧ c ≠ .start
  | _ => False

/-- `Runs lines`: a start was successful, and no call to stop or to dispose has had its turn
since then. -/
def Runs (lines : List LogLine) : Prop :=
  ∃ before ticket after, lines = before ++ .did (.reply ticket (.ok ())) :: after ∧
    servedAfter none before = some (ticket, .start) ∧
    ∀ ticket' c, .turn ticket' c ∈ after → c = .start

/-! ## The rule -/

/-- What becomes of one channel after another. -/
inductive Phase where
  | shut
  | held (channel : Nat)
  /-- It was asked to close. -/
  | ending (channel : Nat)

/-- The channel that is held and was not asked to close. -/
def Phase.held? : Phase → List Nat
  | .held channel => [channel]
  | _ => []

/-- The channel that was asked to close. -/
def Phase.ending? : Phase → List Nat
  | .ending channel => [channel]
  | _ => []

/-- What the lines about channels lead to. -/
structure ChannelNote where
  phase : Phase
  /-- Whether a start was successful since the listener was stopped. -/
  running : Bool

/-- The note after a line. -/
def ChannelNote.next (k : ChannelNote) (served : Option (Nat × Call)) : LogLine → ChannelNote
  | .heard (.opened (.ok channel)) => { k with phase := .held channel }
  | .did (.close channel) => { k with phase := .ending channel }
  | .heard (.closed _) => { k with phase := .shut }
  | .did (.reply _ (.ok _)) => { k with running := served.any (·.2 = .start) }
  | _ => k

/-- Whether the phase allows a line. -/
def Phase.Allows (p : Phase) (served : Option (Nat × Call)) : LogLine → Prop
  | .heard (.opened (.ok _)) => p = .shut
  | .did (.close channel) => p = .held channel
  | .heard (.closed channel) => p = .ending channel
  | .did (.show state) => state = .connected ∨ p = .shut
  | .did (.openChannel _) => p = .shut
  | .did (.reply ticket _) => ∃ c, served = some (ticket, c) ∧ (c = .start ∨ p = .shut)
  | _ => True

/-- A channel is opened when there is none, asked to close once and then closed. A start
of a listener that runs is only answered. -/
def channelRule : Rule ChannelNote where
  note := ChannelNote.next
  Allows k served line := k.phase.Allows served line ∧
    (k.running = true → ∀ ticket, served = some (ticket, .start) →
      ∃ result, line = .did (.reply ticket result))

@[simp] theorem channelRule_note (k : ChannelNote) (served : Option (Nat × Call)) (line : LogLine) :
    channelRule.note k served line = k.next served line := rfl

/-! ## Every single move obeys the rule -/

/-- The phase of the channel of a loop. -/
def Loop.phase : Loop → Phase
  | .watching channel => .held channel
  | .closing channel _ => .ending channel
  | _ => .shut

/-- The phase of the channel of a listener. -/
def phase (l : Listener) : Phase :=
  match l.supervisor with
  | some s => s.loop.phase
  | none => .shut

theorem phase_of_some {l : Listener} {s : Supervisor} (hs : l.supervisor = some s) :
    l.phase = s.loop.phase := by
  simp [phase, hs]

theorem phase_of_none {l : Listener} (hs : l.supervisor = none) : l.phase = .shut := by
  simp [phase, hs]

/-- `NotesChannel l k`: the note says how far the channel of the listener has come, and
whether the listener has a loop. -/
structure NotesChannel (l : Listener) (k : ChannelNote) : Prop where
  phase : k.phase = l.phase
  running : k.running = l.supervisor.isSome

/-- `line.Aside`: the line opens and closes no channel, and no call has its turn or its
answer. -/
def LogLine.Aside : LogLine → Prop
  | .turn _ _ | .did (.reply _ _) | .did (.close _) => False
  | .heard (.opened (.ok _)) | .heard (.closed _) => False
  | _ => True

theorem aside_shows {before after : ListenerState} : ∀ line ∈ shows before after, line.Aside := by
  unfold shows
  split <;> simp [LogLine.Aside]

theorem aside_ask (a : Ask) : (LogLine.did a.effect).Aside := by
  cases a <;> exact trivial

/-- Such a line changes nothing, and may come while there is no channel. -/
theorem LogLine.Aside.unchanged {line : LogLine} (h : line.Aside) (k : ChannelNote)
    (served : Option (Nat × Call)) :
    k.next served line = k ∧ line.served served = served ∧ Phase.shut.Allows served line := by
  cases line with
  | turn ticket c => exact h.elim
  | heard i =>
    cases i with
    | opened result =>
      cases result with
      | ok channel => exact h.elim
      | error f => exact ⟨rfl, rfl, trivial⟩
    | closed channel => exact h.elim
    | _ => exact ⟨rfl, rfl, trivial⟩
  | did effect =>
    cases effect with
    | reply ticket result => exact h.elim
    | close channel => exact h.elim
    | «show» state => exact ⟨rfl, rfl, .inr rfl⟩
    | openChannel token => exact ⟨rfl, rfl, rfl⟩
    | _ => exact ⟨rfl, rfl, trivial⟩

section Lines

variable {k : ChannelNote} {served : Option (Nat × Call)}

/-- `Free k served`: no start of a listener that runs is being served. -/
def Free (k : ChannelNote) (served : Option (Nat × Call)) : Prop :=
  k.running = true → ∀ ticket, served ≠ some (ticket, .start)

theorem Free.allows (h : Free k served) {line : LogLine} (hp : k.phase.Allows served line) :
    channelRule.Allows k served line :=
  ⟨hp, fun hr ticket hserved => absurd hserved (h hr ticket)⟩

/-- A line that may come leads to the next note. -/
theorem Free.leads (h : Free k served) (line : LogLine) (hp : k.phase.Allows served line) :
    channelRule.Leads k served [line] (k.next served line) (line.served served) :=
  ⟨⟨h.allows hp, trivial⟩, rfl, rfl⟩

/-- While there is no channel, lines aside change nothing. -/
theorem Free.leads_aside (h : Free k served) (hp : k.phase = .shut) {lines : List LogLine}
    (hlines : ∀ line ∈ lines, line.Aside) : channelRule.Leads k served lines k served := by
  induction lines with
  | nil => exact ⟨trivial, rfl, rfl⟩
  | cons line rest ih =>
    obtain ⟨hnext, hserved, hallows⟩ := (hlines line List.mem_cons_self).unchanged k served
    have hline := h.leads line (hp ▸ hallows)
    rw [hnext, hserved] at hline
    exact hline.cons (ih fun x hx => hlines x (List.mem_cons_of_mem _ hx))

/-- While there is a channel, the listener may show that it is connected. -/
theorem Free.leads_connected (h : Free k served) (state : ListenerState) :
    channelRule.Leads k served (shows state .connected) k served := by
  unfold shows
  split
  · exact ⟨trivial, rfl, rfl⟩
  · exact h.leads _ (.inl rfl)

/-- A call has its turn. -/
theorem leads_channelTurn (k : ChannelNote) (ticket : Nat) (c : Call) :
    channelRule.Leads k none [.turn ticket c] k (some (ticket, c)) :=
  Free.leads (fun _ _ h => by cases h) (.turn ticket c) trivial

/-- A start may be answered at any time. -/
theorem leads_started (k : ChannelNote) (ticket : Nat) (result : Except TokenService.Failure Unit) :
    channelRule.Leads k (some (ticket, .start)) [.did (.reply ticket result)]
      (k.next (some (ticket, .start)) (.did (.reply ticket result))) none := by
  refine ⟨⟨⟨⟨.start, rfl, .inl rfl⟩, fun _ ticket' h => ?_⟩, trivial⟩, rfl, rfl⟩
  cases h
  exact ⟨result, rfl⟩

/-- A call that ends the loop is answered when every channel has closed. -/
theorem leads_finished (hp : k.phase = .shut) (l : Listener) (ticket : Nat) (disposing : Bool) :
    channelRule.Leads k (some (ticket, endingCall disposing)) (l.finishLines ticket disposing)
      { k with running := false } none := by
  have hfree : Free k (some (ticket, endingCall disposing)) := by
    intro _ ticket' h
    cases disposing <;> simp [endingCall] at h
  have hreply := hfree.leads (.did (.reply ticket (.ok ()))) ⟨_, rfl, .inr hp⟩
  have hnext : k.next (some (ticket, endingCall disposing)) (.did (.reply ticket (.ok ()))) =
      { k with running := false } := by cases disposing <;> rfl
  rw [hnext] at hreply
  refine (hfree.leads_aside hp fun line hline => ?_).append hreply
  rcases List.mem_append.1 hline with hline | hline
  · exact aside_shows line hline
  · cases disposing with
    | false => simp at hline
    | true =>
      rcases List.mem_append.1 hline with hline | hline
      · cases ho : l.ownsSession <;> simp [ho] at hline
        rw [hline]
        exact trivial
      · exact aside_shows line hline

end Lines

section Moves

variable {l l' : Listener} {lines : List LogLine} {k : ChannelNote} (hk : NotesChannel l k)
include hk

theorem NotesChannel.of_some {s : Supervisor} (hs : l.supervisor = some s) :
    k.phase = s.loop.phase ∧ k.running = true :=
  ⟨hk.phase.trans (phase_of_some hs), by simp [hk.running, hs]⟩

theorem NotesChannel.of_none (hs : l.supervisor = none) : k.phase = .shut ∧ k.running = false :=
  ⟨hk.phase.trans (phase_of_none hs), by simp [hk.running, hs]⟩

/-- A listener that runs makes no first attempt. -/
theorem NotesChannel.free (hsteady : Steady l) : Free k l.serving.call? := by
  intro hr ticket hserved
  cases hl : l.serving with
  | nothing => simp [hl, Serving.call?] at hserved
  | starting ticket' stage =>
    rw [hk.running, (hsteady.starting _ _ hl).1] at hr
    cases hr
  | stopping ticket' disposing =>
    cases disposing <;> simp [hl, Serving.call?, endingCall] at hserved

/-- The loop goes from one place without a channel to another one. -/
theorem NotesChannel.aside (hsteady : Steady l) {s s' : Supervisor} (hs : l.supervisor = some s)
    (hp : s.loop.phase = .shut) (hlines : ∀ line ∈ lines, line.Aside)
    (hs' : l'.supervisor = some s') (hp' : s'.loop.phase = .shut) :
    channelRule.Obeys k l.serving.call? lines ∧
      NotesChannel l' (channelRule.noted k l.serving.call? lines) := by
  obtain ⟨hshut, hr⟩ := hk.of_some hs
  rw [hp] at hshut
  refine ((hk.free hsteady).leads_aside hshut hlines).keeps ⟨?_, ?_⟩
  · rw [hshut, phase_of_some hs', hp']
  · rw [hr, hs']
    rfl

/-- The loop goes on when its channel has closed. -/
theorem NotesChannel.closed (hsteady : Steady l) {s s' : Supervisor} {channel : Nat}
    {reason : Option DisconnectReason} (hs : l.supervisor = some s)
    (hloop : s.loop = .closing channel reason) (hlines : ∀ line ∈ lines, line.Aside)
    (hs' : l'.supervisor = some s') (hp' : s'.loop.phase = .shut) :
    channelRule.Obeys k l.serving.call? (.heard (.closed channel) :: lines) ∧
      NotesChannel l'
        (channelRule.noted k l.serving.call? (.heard (.closed channel) :: lines)) := by
  obtain ⟨hp, hr⟩ := hk.of_some hs
  rw [hloop] at hp
  have hfree : Free { k with phase := .shut } l.serving.call? := hk.free hsteady
  have hclosed := (hk.free hsteady).leads (.heard (.closed channel)) hp
  refine (hclosed.cons (hfree.leads_aside rfl hlines)).keeps ⟨?_, ?_⟩
  · rw [phase_of_some hs', hp']
  · rw [hr, hs']
    rfl

/-- The first attempt ends with the answer of the start. -/
theorem NotesChannel.started (hsteady : Steady l) {ticket : Nat} {stage : Stage}
    (hl : l.serving = .starting ticket stage) (hlines : ∀ line ∈ lines, line.Aside)
    (result : Except TokenService.Failure Unit) (hp : l'.phase = .shut)
    (hr : l'.supervisor.isSome = result.toBool) :
    channelRule.Obeys k l.serving.call? (lines ++ [.did (.reply ticket result)]) ∧
      NotesChannel l'
        (channelRule.noted k l.serving.call? (lines ++ [.did (.reply ticket result)])) := by
  obtain ⟨hshut, hr'⟩ := hk.of_none (hsteady.starting _ _ hl).1
  have hfree := hk.free hsteady
  have hcall : l.serving.call? = some (ticket, .start) := by rw [hl]; rfl
  rw [hcall] at hfree ⊢
  refine ((hfree.leads_aside hshut hlines).append (leads_started k ticket result)).keeps ⟨?_, ?_⟩
  · rw [hp]
    cases result <;> exact hshut
  · rw [hr]
    cases result with
    | ok _ => rfl
    | error e => exact hr'

/-- A start that is only answered changes nothing. -/
theorem NotesChannel.answered (hl : l.serving = .nothing) (ticket : Nat)
    (result : Except TokenService.Failure Unit)
    (hr : result.toBool = true → l.supervisor.isSome = true) :
    channelRule.Obeys k l.serving.call? [.turn ticket .start, .did (.reply ticket result)] ∧
      NotesChannel l (channelRule.noted k l.serving.call?
        [.turn ticket .start, .did (.reply ticket result)]) := by
  rw [hl]
  refine ((leads_channelTurn k ticket .start).cons (leads_started k ticket result)).keeps ?_
  cases result with
  | ok _ => exact ⟨hk.phase, (hr rfl).symm⟩
  | error e => exact hk

end Moves

theorem kept_channelRule : channelRule.Kept NotesChannel := by
  intro l l' lines k hsteady hk hw
  have hfree := hk.free hsteady
  cases hw with
  | queued ticket c =>
    exact (hfree.leads (.heard (.call ticket c)) trivial).keeps ⟨hk.phase, hk.running⟩
  | dequeued queue => exact ⟨trivial, ⟨hk.phase, hk.running⟩⟩
  | refreshed result => exact (hfree.leads (.heard (.refreshed result)) trivial).keeps hk
  | refused f => exact (hfree.leads (.heard (.opened (.error f))) trivial).keeps hk
  | startRefused ticket hl hd => exact hk.answered hl ticket _ (by simp [Except.toBool])
  | startFailed ticket hl hd ht => exact hk.answered hl ticket _ (by simp [Except.toBool])
  | startedAlready ticket hl hd hs => exact hk.answered hl ticket _ fun _ => hs
  | disposedAlready ticket hl hd =>
    have hs : l.supervisor = none := by
      rcases hsteady.disposed hd with ⟨_, hst⟩ | ⟨_, hs, _⟩
      · rw [hl] at hst
        cases hst
      · exact hs
    have hfree' : Free k (some (ticket, .dispose)) := fun _ _ h => by cases h
    have hreply := hfree'.leads (.did (.reply ticket (.ok ())))
      ⟨.dispose, rfl, .inr (hk.of_none hs).1⟩
    rw [hl]
    exact ((leads_channelTurn k ticket .dispose).cons hreply).keeps ⟨hk.phase, by rw [hs]; rfl⟩
  | starts g ticket stage hl hd ht hs =>
    obtain ⟨hp, hr⟩ := hk.of_none hs
    have hfree' : Free k (some (ticket, .start)) := fun h => by simp [hr] at h
    have hlines : ∀ line ∈ shows l.state .connecting ++ [.did (.attempt true g)], line.Aside :=
      List.forall_mem_append.2 ⟨aside_shows, by simp [LogLine.Aside]⟩
    rw [hl]
    exact ((leads_channelTurn k ticket .start).cons (hfree'.leads_aside hp hlines)).keeps
      ⟨hk.phase, hk.running⟩
  | firstAsks a hl =>
    obtain ⟨hp, -⟩ := hk.of_none (hsteady.starting _ _ hl).1
    exact (hfree.leads_aside hp (by simp [aside_ask])).keeps ⟨hk.phase, hk.running⟩
  | firstFails f hl =>
    have hs := (hsteady.starting _ _ hl).1
    exact hk.started hsteady hl aside_shows _ (phase_of_none hs) (by rw [hs]; rfl)
  | firstRetries f hl =>
    have hlines : ∀ line ∈ shows l.state .retryScheduled ++ [.did (.wait (l.backoff.delay 1))],
        line.Aside := List.forall_mem_append.2 ⟨aside_shows, by simp [LogLine.Aside]⟩
    simpa only [List.append_assoc, List.cons_append, List.nil_append] using
      hk.started hsteady hl hlines (.ok ()) rfl rfl
  | @firstOpens ticket stage channel hl =>
    obtain ⟨hp, hr⟩ := hk.of_none (hsteady.starting _ _ hl).1
    have hcall : l.serving.call? = some (ticket, .start) := by rw [hl]; rfl
    rw [hcall] at hfree ⊢
    have hfree' : Free { k with phase := .held channel } (some (ticket, .start)) := hfree
    exact ((hfree.leads (.heard (.opened (.ok channel))) hp).cons
      ((hfree'.leads_connected l.state).append (leads_started _ ticket (.ok ())))).keeps ⟨rfl, rfl⟩
  | firstBreaks hl =>
    have hs := (hsteady.starting _ _ hl).1
    exact hk.started hsteady hl (List.forall_mem_nil _) _ (phase_of_none hs) (by rw [hs]; rfl)
  | begins g stage hl hs hloop =>
    exact hk.aside hsteady hs (by rw [hloop]; rfl) (by simp [LogLine.Aside]) rfl rfl
  | asks a hl hs hloop =>
    exact hk.aside hsteady hs (by rw [hloop]; rfl) (by simp [aside_ask]) rfl rfl
  | fails hl hs hloop => exact hk.aside hsteady hs (by rw [hloop]; rfl) aside_shows rfl rfl
  | retries f hl hs hloop =>
    exact hk.aside hsteady hs (by rw [hloop]; rfl)
      (List.forall_mem_append.2 ⟨aside_shows, by simp [LogLine.Aside]⟩) rfl rfl
  | opens channel hl hs hloop =>
    obtain ⟨hp, hr⟩ := hk.of_some hs
    rw [hloop] at hp
    have hfree' : Free { k with phase := .held channel } l.serving.call? := hfree
    exact ((hfree.leads (.heard (.opened (.ok channel))) hp).cons
      (hfree'.leads_connected l.state)).keeps ⟨rfl, hr⟩
  | breaks hl hs hloop =>
    exact hk.aside hsteady hs (by rw [hloop]; rfl) (List.forall_mem_nil _) rfl rfl
  | elapses hl hs hloop => exact hk.aside hsteady hs (by rw [hloop]; rfl) aside_shows rfl rfl
  | @closes s channel reason hl hs hloop =>
    obtain ⟨hp, hr⟩ := hk.of_some hs
    rw [hloop] at hp
    exact (hfree.leads (.did (.close channel)) hp).keeps ⟨rfl, hr⟩
  | closedEnds hl hs hloop => exact hk.closed hsteady hs hloop (by simp [LogLine.Aside]) rfl rfl
  | closedFails hl hs hloop =>
    exact hk.closed hsteady hs hloop
      (List.forall_mem_append.2 ⟨aside_shows, by simp [LogLine.Aside]⟩) rfl rfl
  | closedRetries hl hs hloop =>
    exact hk.closed hsteady hs hloop
      (List.forall_mem_append.2 ⟨aside_shows, by simp [LogLine.Aside]⟩) rfl rfl
  | @leaves s effects hl hs hloop he =>
    have hp : s.loop.phase = .shut := by cases h : s.loop <;> simp_all [Loop.state?, Loop.phase]
    refine hk.aside hsteady hs hp ?_ rfl rfl
    rcases he with rfl | rfl <;> simp [LogLine.Aside]
  | waits ticket disposing hl hd hs =>
    obtain ⟨hp, hr⟩ := hk.of_some hs
    rw [hl]
    exact (leads_channelTurn k ticket _).keeps ⟨hp, hr⟩
  | @joins s ticket disposing hl hs he =>
    have hp : k.phase = .shut := by rw [(hk.of_some hs).1, he]; rfl
    rw [hl]
    exact (leads_finished hp l ticket disposing).keeps ⟨hp, rfl⟩
  | settles ticket disposing hl hd hs =>
    obtain ⟨hp, hr⟩ := hk.of_none hs
    rw [hl]
    exact ((leads_channelTurn k ticket _).cons (leads_finished hp l ticket disposing)).keeps
      ⟨hp, rfl⟩

/-! ## What a log that obeys the rule tells -/

/-- A line moves the phase on and is counted, or does neither. -/
theorem tally_line {line : LogLine} {k : ChannelNote} {served : Option (Nat × Call)}
    (h : k.phase.Allows served line) :
    k.phase.held? ++ openedIn [line] = askedIn [line] ++ (k.next served line).phase.held? ∧
      k.phase.ending? ++ askedIn [line] =
        closedIn [line] ++ (k.next served line).phase.ending? := by
  cases line with
  | heard i =>
    cases i with
    | opened result =>
      cases result with
      | ok channel =>
        have hp : k.phase = .shut := h
        simp [openedIn, askedIn, closedIn, ChannelNote.next, Phase.held?, Phase.ending?, hp]
      | error f => simp [openedIn, askedIn, closedIn, ChannelNote.next]
    | closed channel =>
      have hp : k.phase = .ending channel := h
      simp [openedIn, askedIn, closedIn, ChannelNote.next, Phase.held?, Phase.ending?, hp]
    | _ => simp [openedIn, askedIn, closedIn, ChannelNote.next]
  | turn ticket c => simp [openedIn, askedIn, closedIn, ChannelNote.next]
  | did effect =>
    cases effect with
    | close channel =>
      have hp : k.phase = .held channel := h
      simp [openedIn, askedIn, closedIn, ChannelNote.next, Phase.held?, Phase.ending?, hp]
    | reply ticket result => cases result <;> simp [openedIn, askedIn, closedIn, ChannelNote.next]
    | _ => simp [openedIn, askedIn, closedIn, ChannelNote.next]

/-- What such a log has opened, asked to close and seen closed. -/
theorem tally {lines : List LogLine} {k : ChannelNote} {served : Option (Nat × Call)}
    (h : channelRule.Obeys k served lines) :
    k.phase.held? ++ openedIn lines =
        askedIn lines ++ (channelRule.noted k served lines).phase.held? ∧
      k.phase.ending? ++ askedIn lines =
        closedIn lines ++ (channelRule.noted k served lines).phase.ending? := by
  induction lines generalizing k served with
  | nil => simp [openedIn, askedIn, closedIn]
  | cons line rest ih =>
    obtain ⟨hline, hline'⟩ := tally_line h.1.1
    obtain ⟨hrest, hrest'⟩ := ih h.2
    rw [channelRule_note] at hrest hrest'
    rw [channelRule.noted_cons, channelRule_note]
    have happend : ∀ f : LogLine → Option Nat,
        (line :: rest).filterMap f = [line].filterMap f ++ rest.filterMap f := fun f => by
      rw [← List.filterMap_append, List.singleton_append]
    constructor
    · calc k.phase.held? ++ openedIn (line :: rest)
          = k.phase.held? ++ openedIn [line] ++ openedIn rest := by
            rw [List.append_assoc]; exact congrArg _ (happend _)
        _ = askedIn [line] ++ askedIn rest ++ _ := by
            rw [hline, List.append_assoc, hrest, ← List.append_assoc]
        _ = askedIn (line :: rest) ++ _ := congrArg (· ++ _) (happend _).symm
    · calc k.phase.ending? ++ askedIn (line :: rest)
          = k.phase.ending? ++ askedIn [line] ++ askedIn rest := by
            rw [List.append_assoc]; exact congrArg _ (happend _)
        _ = closedIn [line] ++ closedIn rest ++ _ := by
            rw [hline', List.append_assoc, hrest', ← List.append_assoc]
        _ = closedIn (line :: rest) ++ _ := congrArg (· ++ _) (happend _).symm

/-- What has to wait for the channels may come when every one has closed. -/
theorem shut_of_needsClosed {line : LogLine} {p : Phase} {served : Option (Nat × Call)}
    (h : p.Allows served line) (hneeds : NeedsClosed served line) : p = .shut := by
  cases line with
  | heard i => exact hneeds.elim
  | turn ticket c => exact hneeds.elim
  | did effect =>
    cases effect with
    | «show» state => exact h.resolve_left hneeds
    | openChannel token => exact h
    | reply ticket result =>
      obtain ⟨c, hc, hshut⟩ := h
      obtain ⟨ticket', c', hc', hne⟩ := hneeds
      rw [hc] at hc'
      cases hc'
      exact hshut.resolve_left hne
    | _ => exact hneeds.elim

theorem held_of_append {p : Phase} {opened asked : List Nat} {channel : Nat}
    (h : opened = asked ++ p.held?) (h' : opened = asked ++ [channel]) : p = .held channel := by
  have hheld : p.held? = [channel] := List.append_cancel_left (h.symm.trans h')
  cases p <;> simp_all [Phase.held?]

theorem ending_of_append {p : Phase} {asked closed : List Nat} {channel : Nat}
    (h : asked = closed ++ p.ending?) (h' : asked = closed ++ [channel]) : p = .ending channel := by
  have hending : p.ending? = [channel] := List.append_cancel_left (h.symm.trans h')
  cases p <;> simp_all [Phase.ending?]

/-- A listener that runs goes on running until it is stopped. -/
theorem running_noted {lines : List LogLine} {k : ChannelNote} {served : Option (Nat × Call)}
    (h : channelRule.Obeys k served lines) (hr : k.running = true)
    (hserved : ∀ ticket c, served = some (ticket, c) → c = .start)
    (hlines : ∀ ticket c, .turn ticket c ∈ lines → c = .start) :
    (channelRule.noted k served lines).running = true := by
  induction lines generalizing k served with
  | nil => exact hr
  | cons line rest ih =>
    obtain ⟨⟨hallows, -⟩, hrest⟩ := h
    have hr' : (k.next served line).running = true := by
      cases line with
      | heard i =>
        cases i with
        | opened result => cases result <;> exact hr
        | _ => exact hr
      | turn ticket c => exact hr
      | did effect =>
        cases effect with
        | reply ticket result =>
          cases result with
          | ok _ =>
            obtain ⟨c, hc, -⟩ := hallows
            simp [ChannelNote.next, hc, hserved ticket c hc]
          | error f => exact hr
        | _ => exact hr
    have hserved' : ∀ ticket c, line.served served = some (ticket, c) → c = .start := by
      intro ticket c hc
      cases line with
      | heard i => exact hserved ticket c hc
      | turn ticket' c' =>
        cases hc
        exact hlines ticket c List.mem_cons_self
      | did effect =>
        cases effect with
        | reply ticket' result => cases hc
        | _ => exact hserved ticket c hc
    exact ih hrest hr' hserved' fun ticket c hm => hlines ticket c (List.mem_cons_of_mem _ hm)

theorem Runs.running {lines : List LogLine} (h : Runs lines) {k : ChannelNote}
    (ho : channelRule.Obeys k none lines) : (channelRule.noted k none lines).running = true := by
  obtain ⟨before, ticket, after, rfl, hserved, hafter⟩ := h
  obtain ⟨-, -, hrest⟩ := channelRule.obeys_append.1 ho
  rw [channelRule.noted_append, channelRule.noted_cons, hserved]
  rw [hserved] at hrest
  exact running_noted hrest rfl (by simp [LogLine.served]) hafter

/-! ## Runs -/

theorem phase_eq_held {l : Listener} {channel : Nat} (h : l.phase = .held channel) :
    ∃ s, l.supervisor = some s ∧ s.loop = .watching channel := by
  cases hs : l.supervisor with
  | none => simp [phase_of_none hs] at h
  | some s =>
    rw [phase_of_some hs] at h
    cases hloop : s.loop <;> simp [hloop, Loop.phase] at h
    exact ⟨s, rfl, h ▸ hloop⟩

theorem phase_eq_ending {l : Listener} {channel : Nat} (h : l.phase = .ending channel) :
    l.isClosing channel = true := by
  cases hs : l.supervisor with
  | none => simp [phase_of_none hs] at h
  | some s =>
    rw [phase_of_some hs] at h
    cases hloop : s.loop <;> simp [hloop, Loop.phase] at h
    exact isClosing_iff.2 ⟨s, _, hs, h ▸ hloop⟩

theorem mem_stepLog_of_hear {l : Listener} {g : Glance} {i : Input} {effect : Effect}
    (h : effect ∈ (l.hear g i).2) : .did effect ∈ l.stepLog g i := by
  simp [stepLog, h]

/-- A channel that is open is asked to close when it falls, and when the loop notices the
call that waits for it. -/
theorem close_mem_stepLog {l : Listener} (hsteady : Steady l) {channel : Nat}
    (hp : l.phase = .held channel) (g : Glance) :
    (∀ reason, .did (.close channel) ∈ l.stepLog g (.disconnected channel reason)) ∧
      ((∃ ticket c, l.serving.call? = some (ticket, c) ∧ c ≠ .start) →
        .did (.close channel) ∈ l.stepLog g .noticed) := by
  obtain ⟨s, hs, hloop⟩ := phase_eq_held hp
  have hl : Unstarted l := fun ticket stage h => by
    rw [(hsteady.starting ticket stage h).1] at hs
    cases hs
  refine ⟨fun reason => mem_stepLog_of_hear ?_, ?_⟩
  · rw [hear_of_some hl hs g (by simp)]
    simp [loopInput, hloop]
  · rintro ⟨ticket, c, hserved, hne⟩
    refine mem_stepLog_of_hear ?_
    have hcancelled : s.cancelled = true := by
      cases hst : l.serving with
      | nothing => simp [hst, Serving.call?] at hserved
      | starting ticket' stage => exact absurd hst (hl ticket' stage)
      | stopping ticket' disposing =>
        obtain ⟨⟨s', hs', hc⟩, -⟩ := hsteady.stopping _ _ hst
        rw [hs] at hs'
        cases hs'
        exact hc
    rw [hear_of_some hl hs g (by simp)]
    simp [loopInput, hloop, hcancelled, notice]

/-- **Channels are closed once and in time.**  Whatever the session, the transport and the
callers do: at every moment the channels opened are those asked to close and at most one
more, and the channels asked to close are those that have closed and at most one more, each
as often and in the same order; all have closed whenever a state other than `connected` is
shown, a channel is asked for, or a call to stop or to dispose returns.  A start while the
listener runs is only answered.  A channel that is open is asked to close as soon as it
falls, or as soon as the loop notices that a call waits for it; and a channel that was asked
to close is waited for. -/
theorem channels_close_once_and_in_time (backoff : Backoff) (ownsSession : Bool)
    (inputs : List (Glance × Input)) :
    let lines := (fresh backoff ownsSession).log inputs
    let l := ((fresh backoff ownsSession).run inputs).1
    (∀ before after, lines = before ++ after →
      ∃ held ending, openedIn before = askedIn before ++ held ∧
        askedIn before = closedIn before ++ ending ∧ (held ++ ending).length ≤ 1) ∧
    (∀ before line after, lines = before ++ line :: after →
      NeedsClosed (servedAfter none before) line →
        openedIn before = askedIn before ∧ askedIn before = closedIn before) ∧
    (∀ before ticket after, lines = before ++ .turn ticket .start :: after → Runs before →
      ∃ result rest, after = .did (.reply ticket result) :: rest) ∧
    (∀ channel, openedIn lines = askedIn lines ++ [channel] → ∀ g,
      (∀ reason, .did (.close channel) ∈ l.stepLog g (.disconnected channel reason)) ∧
      ((∃ ticket c, servedAfter none lines = some (ticket, c) ∧ c ≠ .start) →
        .did (.close channel) ∈ l.stepLog g .noticed)) ∧
    ∀ channel, askedIn lines = closedIn lines ++ [channel] → ∀ g,
      .heard (.closed channel) ∈ l.stepLog g (.closed channel) := by
  intro lines l
  let k : ChannelNote := ⟨.shut, false⟩
  obtain ⟨hobeys, hk, hsteady, hserved⟩ : channelRule.Obeys k none lines ∧
      NotesChannel l (channelRule.noted k none lines) ∧ Steady l ∧
        servedAfter none lines = l.serving.call? :=
    kept_channelRule.obeys_log backoff ownsSession ⟨rfl, rfl⟩ inputs
  have hcut : ∀ {before after}, lines = before ++ after → channelRule.Obeys k none before ∧
      channelRule.Obeys (channelRule.noted k none before) (servedAfter none before) after :=
    fun h => channelRule.obeys_append.1 (h ▸ hobeys)
  have hcounts : ∀ {before after}, lines = before ++ after → channelRule.Obeys k none before ∧
      openedIn before = askedIn before ++ (channelRule.noted k none before).phase.held? ∧
      askedIn before = closedIn before ++ (channelRule.noted k none before).phase.ending? := by
    exact fun h => ⟨(hcut h).1, tally (hcut h).1⟩
  have hwhole := hcounts (List.append_nil lines).symm
  refine ⟨?_, ?_, ?_, ?_, ?_⟩
  · intro before after h
    obtain ⟨-, hopened, hasked⟩ := hcounts h
    refine ⟨_, _, hopened, hasked, ?_⟩
    cases (channelRule.noted k none before).phase <;> simp [Phase.held?, Phase.ending?]
  · intro before line after h hneeds
    obtain ⟨-, hopened, hasked⟩ := hcounts h
    have hshut := shut_of_needsClosed (hcut h).2.1.1 hneeds
    rw [hshut] at hopened hasked
    exact ⟨by simpa [Phase.held?] using hopened, by simpa [Phase.ending?] using hasked⟩
  · intro before ticket after h hruns
    have hrunning := hruns.running (hcounts h).1
    have hafter := (hcut h).2.2
    cases after with
    | nil =>
      -- a run does not end while a start waits for its answer and the loop is there
      have hserving : l.serving.call? = some (ticket, .start) := by
        rw [← hserved, h, servedAfter_append]
        rfl
      have hfree := hk.free hsteady
      rw [h, channelRule.noted_append] at hfree
      exact absurd hserving (hfree hrunning ticket)
    | cons line rest =>
      obtain ⟨result, rfl⟩ := hafter.1.2 hrunning ticket rfl
      exact ⟨result, rest, rfl⟩
  · intro channel hchannel g
    have hphase : l.phase = .held channel :=
      hk.phase.symm.trans (held_of_append hwhole.2.1 hchannel)
    rw [hserved]
    exact close_mem_stepLog hsteady hphase g
  · intro channel hchannel g
    have hphase : l.phase = .ending channel :=
      hk.phase.symm.trans (ending_of_append hwhole.2.2 hchannel)
    simp [stepLog, isAwaited, phase_eq_ending hphase]

end Listener

end Appliance
