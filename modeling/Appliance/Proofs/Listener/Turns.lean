import Appliance.Listener.Log
import Appliance.Proofs.Listener.Renewal

/-!
# What a log can hold

The log of a run is written move by move. This file says once what each move writes and
where it leads, so that a rule about logs needs one short case for each move.

* `effects_log` — a log tells all that the run does.
* `Writes`      — the single moves, each with its lines.
* `writing_log` — **the log of a run is written by single moves.**
-/

namespace Appliance

namespace Listener

/-! ## Logs and effects -/

@[simp] theorem filterMap_effect?_did (effects : List Effect) :
    (effects.map LogLine.did).filterMap LogLine.effect? = effects := by
  rw [List.filterMap_map]
  exact List.filterMap_some

theorem effects_serveLog (g : Glance) (queue : List (Nat × Call)) (l : Listener) :
    (serveLog g queue l).filterMap LogLine.effect? = (serveAll g queue l).2 := by
  induction queue generalizing l with
  | nil => rfl
  | cons call rest ih =>
    obtain ⟨ticket, c⟩ := call
    simp only [serveLog, serveAll, List.filterMap_cons, List.filterMap_append, LogLine.effect?,
      filterMap_effect?_did, andThen_snd]
    congr 1
    split
    · exact ih _
    · rfl

/-- The lines of a step hold the effects of the step. -/
theorem effects_stepLog (l : Listener) (g : Glance) (i : Input) :
    (l.stepLog g i).filterMap LogLine.effect? = (l.step g i).2 := by
  have hheard :
      (if l.isAwaited i then [LogLine.heard i] else []).filterMap LogLine.effect? = [] := by
    split <;> rfl
  have hserved : (if (l.hear g i).1.joinLoop.1.serving = .nothing then
      serveLog g (l.hear g i).1.joinLoop.1.queue (l.hear g i).1.joinLoop.1
      else []).filterMap LogLine.effect? = ((l.hear g i).1.joinLoop.1.serveNext g).2 := by
    unfold serveNext
    split
    · exact effects_serveLog g _ _
    · rfl
  simp only [stepLog, step, List.filterMap_append, hheard, hserved, filterMap_effect?_did,
    List.nil_append, andThen_fst, andThen_snd]

/-- A log tells all that the run does. -/
theorem effects_log (inputs : List (Glance × Input)) (l : Listener) :
    (l.log inputs).filterMap LogLine.effect? = (l.run inputs).2 := by
  induction inputs generalizing l with
  | nil => rfl
  | cons input rest ih =>
    obtain ⟨g, i⟩ := input
    simp only [log, run, List.filterMap_append, effects_stepLog, ih, andThen_snd]

/-! ## Single moves -/

/-- The line that going from one state to another writes, if they differ. -/
def shows (before after : ListenerState) : List LogLine :=
  if before = after then [] else [.did (.show after)]

theorem map_did_goto (l : Listener) (next : ListenerState) :
    (l.goto next).2.map LogLine.did = shows l.state next := by
  rw [goto_snd, shows]
  split <;> rfl

/-- The state that a listener shows without its loop. -/
def rested (state : ListenerState) : ListenerState :=
  if state.isTerminal then state else .disconnected

/-- The call that waits for the end of the loop. -/
def endingCall (disposing : Bool) : Call := if disposing then .dispose else .stop

/-- A listener that such a call has left. -/
def finished (l : Listener) (disposing : Bool) : Listener :=
  { l with
    supervisor := none
    state := if disposing then .permanentlyFailed else rested l.state
    serving := .nothing }

/-- The lines that end such a call. -/
def finishLines (l : Listener) (ticket : Nat) (disposing : Bool) : List LogLine :=
  shows l.state (rested l.state) ++
    (if disposing then
      (if l.ownsSession then [.did .disposeSession] else []) ++
        shows (rested l.state) .permanentlyFailed
    else []) ++ [.did (.reply ticket (.ok ()))]

/-- `Writes l lines l'`: a single move leads from `l` to `l'` and writes `lines`. An
attempt counts as begun before it has asked for anything, and a call that ends the loop
as waiting even if the loop has ended, so that what follows is written by another move. -/
inductive Writes (l : Listener) : List LogLine → Listener → Prop
  | queued (ticket : Nat) (c : Call) :
      Writes l [.heard (.call ticket c)] { l with queue := l.queue ++ [(ticket, c)] }
  | dequeued (queue : List (Nat × Call)) : Writes l [] { l with queue }
  | refreshed (result : Except TokenService.Failure Unit) : Writes l [.heard (.refreshed result)] l
  | refused (f : Fault) : Writes l [.heard (.opened (.error f))] l
  /-- A call has its turn, and there is nothing to be done for it. -/
  | startRefused (ticket : Nat) (hl : l.serving = .nothing) (hd : l.disposed = true) :
      Writes l [.turn ticket .start, .did (.reply ticket (.error (.fault (.listener .disposed))))] l
  | startFailed (ticket : Nat) (hl : l.serving = .nothing) (hd : l.disposed = false)
      (ht : l.state = .permanentlyFailed) :
      Writes l
        [.turn ticket .start, .did (.reply ticket (.error (.fault (.listener .permanentlyFailed))))] l
  | startedAlready (ticket : Nat) (hl : l.serving = .nothing) (hd : l.disposed = false)
      (hs : l.supervisor.isSome = true) :
      Writes l [.turn ticket .start, .did (.reply ticket (.ok ()))] l
  | disposedAlready (ticket : Nat) (hl : l.serving = .nothing) (hd : l.disposed = true) :
      Writes l [.turn ticket .dispose, .did (.reply ticket (.ok ()))] l
  /-- The first attempt. -/
  | starts (g : Glance) (ticket : Nat) (stage : Stage) (hl : l.serving = .nothing)
      (hd : l.disposed = false) (ht : l.state ≠ .permanentlyFailed) (hs : l.supervisor = none) :
      Writes l (.turn ticket .start :: (shows l.state .connecting ++ [.did (.attempt true g)]))
        { l with state := .connecting, serving := .starting ticket stage }
  | firstAsks {ticket : Nat} {stage : Stage} (a : Ask) (hl : l.serving = .starting ticket stage) :
      Writes l [.did a.effect] { l with serving := .starting ticket a.stage }
  | firstFails {ticket : Nat} {stage : Stage} (f : Fault) (hl : l.serving = .starting ticket stage) :
      Writes l (shows l.state .permanentlyFailed ++ [.did (.reply ticket (.error (.fault f)))])
        { l with state := .permanentlyFailed, serving := .nothing }
  | firstRetries {ticket : Nat} {stage : Stage} (f : Fault)
      (hl : l.serving = .starting ticket stage) :
      Writes l (shows l.state .retryScheduled ++
          [.did (.wait (l.backoff.delay 1)), .did (.reply ticket (.ok ()))])
        { l with
          supervisor := some ⟨.waiting 1, false, f.isTokenRefused⟩
          state := .retryScheduled
          serving := .nothing }
  | firstOpens {ticket : Nat} {stage : Stage} (channel : Nat)
      (hl : l.serving = .starting ticket stage) :
      Writes l (.heard (.opened (.ok channel)) ::
          (shows l.state .connected ++ [.did (.reply ticket (.ok ()))]))
        { l with
          supervisor := some ⟨.watching channel, false, false⟩
          state := .connected
          serving := .nothing }
  | firstBreaks {ticket : Nat} {stage : Stage} (hl : l.serving = .starting ticket stage) :
      Writes l [.did (.reply ticket (.error .beyondClock))] { l with serving := .nothing }
  /-- The loop. -/
  | begins (g : Glance) {s : Supervisor} {attempt : Nat} (stage : Stage) (hl : Unstarted l)
      (hs : l.supervisor = some s) (hloop : s.loop = .ready attempt) :
      Writes l [.did (.attempt false g)] (l.withLoop s (.attempting attempt stage))
  | asks {s : Supervisor} {attempt : Nat} {stage : Stage} (a : Ask) (hl : Unstarted l)
      (hs : l.supervisor = some s) (hloop : s.loop = .attempting attempt stage) :
      Writes l [.did a.effect] (l.withLoop s (.attempting attempt a.stage))
  | fails {s : Supervisor} {attempt : Nat} {stage : Stage} (hl : Unstarted l)
      (hs : l.supervisor = some s) (hloop : s.loop = .attempting attempt stage) :
      Writes l (shows l.state .permanentlyFailed) ((l.withLoop s .ended).goto .permanentlyFailed).1
  | retries {s : Supervisor} {attempt : Nat} {stage : Stage} (f : Fault) (hl : Unstarted l)
      (hs : l.supervisor = some s) (hloop : s.loop = .attempting attempt stage) :
      Writes l (shows l.state .retryScheduled ++
          [.did (.wait (l.backoff.delay (Backoff.nextAttempt attempt)))])
        ((l.withLoop { s with refreshNext := f.isTokenRefused }
          (.waiting (Backoff.nextAttempt attempt))).goto .retryScheduled).1
  | opens {s : Supervisor} {attempt : Nat} {stage : Stage} (channel : Nat) (hl : Unstarted l)
      (hs : l.supervisor = some s) (hloop : s.loop = .attempting attempt stage) :
      Writes l (.heard (.opened (.ok channel)) :: shows l.state .connected)
        ((l.withLoop { s with refreshNext := false } (.watching channel)).goto .connected).1
  | breaks {s : Supervisor} {attempt : Nat} {stage : Stage} (hl : Unstarted l)
      (hs : l.supervisor = some s) (hloop : s.loop = .attempting attempt stage) :
      Writes l [] (l.withLoop s .ended)
  | elapses {s : Supervisor} {attempt : Nat} (hl : Unstarted l) (hs : l.supervisor = some s)
      (hloop : s.loop = .waiting attempt) :
      Writes l (shows l.state .connecting) ((l.withLoop s (.ready attempt)).goto .connecting).1
  | closes {s : Supervisor} {channel : Nat} (reason : Option DisconnectReason) (hl : Unstarted l)
      (hs : l.supervisor = some s) (hloop : s.loop = .watching channel) :
      Writes l [.did (.close channel)] (l.withLoop s (.closing channel reason))
  | closedEnds {s : Supervisor} {channel : Nat} {reason : Option DisconnectReason}
      (hl : Unstarted l) (hs : l.supervisor = some s) (hloop : s.loop = .closing channel reason) :
      Writes l [.heard (.closed channel), .did (.release channel)] (l.withLoop s .ended)
  | closedFails {s : Supervisor} {channel : Nat} {reason : Option DisconnectReason}
      (hl : Unstarted l) (hs : l.supervisor = some s) (hloop : s.loop = .closing channel reason) :
      Writes l (.heard (.closed channel) ::
          (shows l.state .permanentlyFailed ++ [.did (.release channel)]))
        ((l.withLoop s .ended).goto .permanentlyFailed).1
  | closedRetries {s : Supervisor} {channel : Nat} {reason : Option DisconnectReason}
      (hl : Unstarted l) (hs : l.supervisor = some s) (hloop : s.loop = .closing channel reason) :
      Writes l (.heard (.closed channel) :: (shows l.state .retryScheduled ++
          [.did (.release channel), .did (.wait (l.backoff.delay 1))]))
        ((l.withLoop s (.waiting 1)).goto .retryScheduled).1
  | leaves {s : Supervisor} {effects : List Effect} (hl : Unstarted l) (hs : l.supervisor = some s)
      (hloop : s.loop.state? ≠ some .connected) (he : effects = [] ∨ effects = [.abandon]) :
      Writes l (effects.map .did) (l.withLoop s .ended)
  /-- The calls that end the loop. -/
  | waits {s : Supervisor} (ticket : Nat) (disposing : Bool) (hl : l.serving = .nothing)
      (hd : disposing = true → l.disposed = false) (hs : l.supervisor = some s) :
      Writes l [.turn ticket (endingCall disposing)]
        { l with
          disposed := l.disposed || disposing
          supervisor := some { s with cancelled := true }
          serving := .stopping ticket disposing }
  | joins {s : Supervisor} {ticket : Nat} {disposing : Bool}
      (hl : l.serving = .stopping ticket disposing) (hs : l.supervisor = some s)
      (he : s.loop = .ended) : Writes l (l.finishLines ticket disposing) (l.finished disposing)
  | settles (ticket : Nat) (disposing : Bool) (hl : l.serving = .nothing)
      (hd : disposing = true → l.disposed = false) (hs : l.supervisor = none) :
      Writes l (.turn ticket (endingCall disposing) :: l.finishLines ticket disposing)
        ({ l with disposed := l.disposed || disposing }.finished disposing)

/-- `Writing l lines l'`: single moves lead from `l` to `l'` and write `lines`. -/
inductive Writing : Listener → List LogLine → Listener → Prop
  | done (l : Listener) : Writing l [] l
  | next {l l' l'' : Listener} {lines lines' : List LogLine} (h : Writes l lines l')
      (rest : Writing l' lines' l'') : Writing l (lines ++ lines') l''

theorem Writes.writing {l l' : Listener} {lines : List LogLine} (h : Writes l lines l') :
    Writing l lines l' := by
  have hw := Writing.next h (.done l')
  rwa [List.append_nil] at hw

theorem Writing.append {l l' l'' : Listener} {lines lines' : List LogLine}
    (h : Writing l lines l') (h' : Writing l' lines' l'') : Writing l (lines ++ lines') l'' := by
  induction h with
  | done l => exact h'
  | next h _ ih =>
    rw [List.append_assoc]
    exact .next h (ih h')

/-! ## What is heard -/

/-- Only the session and the transport give answers. -/
theorem isAnswer_eq_false {l : Listener} {i : Input} (hr : ∀ result, i ≠ .refreshed result)
    (ho : ∀ result, i ≠ .opened result) : l.isAnswer i = false := by
  unfold isAnswer
  cases l.stage? with
  | none => rfl
  | some stage =>
    cases i with
    | refreshed result => exact absurd rfl (hr result)
    | opened result => exact absurd rfl (ho result)
    | _ => cases stage <;> rfl

theorem isAwaited_of_isAnswer {l : Listener} {i : Input} (h : l.isAnswer i = true) :
    l.isAwaited i = true := by
  cases i with
  | closed channel =>
    rw [isAnswer_eq_false (by simp) (by simp)] at h
    cases h
  | call ticket c => rfl
  | _ => exact h

theorem isClosing_iff {l : Listener} {channel : Nat} :
    l.isClosing channel = true ↔
      ∃ s reason, l.supervisor = some s ∧ s.loop = .closing channel reason := by
  unfold isClosing
  cases hs : l.supervisor with
  | none => simp
  | some s => cases hloop : s.loop <;> simp [hloop]

theorem isAwaited_closed {l : Listener} {channel : Nat} (h : l.isClosing channel = true) :
    l.isAwaited (.closed channel) = true := h

/-- Besides answers, calls are awaited and the channel that is being closed. -/
theorem isAwaited_cases (l : Listener) (i : Input) :
    l.isAwaited i = l.isAnswer i ∨ (∃ ticket c, i = .call ticket c) ∨
      ∃ channel, i = .closed channel ∧ l.isClosing channel = true := by
  cases i with
  | call ticket c => exact .inr (.inl ⟨ticket, c, rfl⟩)
  | closed channel =>
    cases hclosing : l.isClosing channel with
    | false =>
      rw [isAnswer_eq_false (i := .closed channel) (by simp) (by simp)]
      exact .inl hclosing
    | true => exact .inr (.inr ⟨channel, rfl, hclosing⟩)
  | _ => exact .inl rfl

/-! ## Attempts -/

/-- `Wrote l lines m`: single moves lead from `l` to where the move `m` leads, and write
`lines` and then what `m` does. -/
def Wrote (l : Listener) (lines : List LogLine) (m : Move) : Prop :=
  Writing l (lines ++ m.2.map .did) m.1

theorem Wrote.after {l l' : Listener} {lines lines' : List LogLine} {m : Move}
    (h : Writes l lines l') (h' : Wrote l' lines' m) : Wrote l (lines ++ lines') m := by
  unfold Wrote
  rw [List.append_assoc]
  exact .next h h'

/-- The first attempt goes on, or fails. -/
theorem wrote_firstAdvance {l : Listener} {ticket : Nat} {stage : Stage}
    (hl : l.serving = .starting ticket stage) (a : Advance) :
    Wrote l [] (l.firstAdvance ticket a) := by
  cases a with
  | asks a => exact (Writes.firstAsks a hl).writing
  | fails f =>
    show Wrote l [] (l.firstFailed ticket f)
    unfold firstFailed
    split
    · have h := (Writes.firstFails f hl).writing
      simpa [Wrote, map_did_goto] using h
    · have h := (Writes.firstRetries f hl).writing
      simpa [Wrote, map_did_goto] using h

/-- Which call is being served before the first attempt goes on does not matter to what is
served then. -/
theorem wrote_begun_firstAdvance (l : Listener) (ticket : Nat) (stage : Stage) (a : Advance) :
    Wrote { l with serving := .starting ticket stage } [] (l.firstAdvance ticket a) := by
  have h := wrote_firstAdvance (l := { l with serving := .starting ticket stage }) rfl a
  cases a with
  | asks a => exact h
  | fails f => exact h

/-- The loop's attempt goes on, or fails. -/
theorem wrote_attemptAdvance {l : Listener} (hl : Unstarted l) {s : Supervisor} {attempt : Nat}
    {stage : Stage} (hs : l.supervisor = some s) (hloop : s.loop = .attempting attempt stage)
    (a : Advance) : Wrote l [] (l.attemptAdvance s attempt a) := by
  cases a with
  | asks a => exact (Writes.asks a hl hs hloop).writing
  | fails f =>
    show Wrote l [] (l.attemptFailed s attempt f)
    unfold attemptFailed
    split
    · have h := (Writes.fails hl hs hloop).writing
      simpa [Wrote, map_did_goto, withLoop] using h
    · have h := (Writes.retries f hl hs hloop).writing
      simpa [Wrote, map_did_goto, withLoop] using h

/-- A turn that opens no channel is announced by a line of its own. -/
theorem writes_heard {l : Listener} {g : Glance} {stage : Stage} {i : Input} {turn : Turn}
    (ht : turn? g stage i = some turn) (hne : ∀ channel, turn ≠ .opens channel) :
    Writes l [.heard i] l := by
  rcases turn?_cases ht with ⟨-, rfl, -⟩ | ⟨-, f, rfl, -⟩ | ⟨-, rfl, -⟩ | ⟨-, channel, -, rfl⟩ |
    ⟨-, f, rfl, -⟩
  · exact .refreshed _
  · exact .refreshed _
  · exact .refreshed _
  · exact absurd rfl (hne channel)
  · exact .refused f

/-- A channel is opened by the transport's answer only. -/
theorem eq_opened_of_turn {g : Glance} {stage : Stage} {i : Input} {channel : Nat}
    (ht : turn? g stage i = some (.opens channel)) : i = .opened (.ok channel) := by
  rcases turn?_cases ht with ⟨-, -, h⟩ | ⟨-, f, -, h⟩ | ⟨-, -, h⟩ | ⟨-, n, rfl, h⟩ | ⟨-, f, -, h⟩ <;>
    cases h
  rfl

theorem wrote_firstTurn {l : Listener} {g : Glance} {i : Input} {ticket : Nat} {stage : Stage}
    {turn : Turn} (hl : l.serving = .starting ticket stage) (ht : turn? g stage i = some turn) :
    Wrote l [.heard i] (l.firstTurn ticket turn) := by
  cases turn with
  | advances a => exact .after (writes_heard ht (by simp)) (wrote_firstAdvance hl a)
  | opens channel =>
    rw [eq_opened_of_turn ht]
    have h := (Writes.firstOpens channel hl).writing
    simpa [Wrote, firstTurn, firstOpened, map_did_goto] using h
  | breaks => exact .after (writes_heard ht (by simp)) (Writes.firstBreaks hl).writing

theorem wrote_attemptTurn {l : Listener} {g : Glance} {i : Input} (hl : Unstarted l)
    {s : Supervisor} {attempt : Nat} {stage : Stage} {turn : Turn} (hs : l.supervisor = some s)
    (hloop : s.loop = .attempting attempt stage) (ht : turn? g stage i = some turn) :
    Wrote l [.heard i] (l.attemptTurn s attempt turn) := by
  cases turn with
  | advances a => exact .after (writes_heard ht (by simp)) (wrote_attemptAdvance hl hs hloop a)
  | opens channel =>
    rw [eq_opened_of_turn ht]
    have h := (Writes.opens channel hl hs hloop).writing
    simpa [Wrote, attemptTurn, attemptOpened, map_did_goto, withLoop] using h
  | breaks => exact .after (writes_heard ht (by simp)) (Writes.breaks hl hs hloop).writing

/-! ## The loop -/

section Loop

variable {l : Listener} {s : Supervisor} (hl : Unstarted l) (hs : l.supervisor = some s)
include hl hs

theorem wrote_channelClosed {channel : Nat} {reason : Option DisconnectReason}
    (hloop : s.loop = .closing channel reason) :
    Wrote l [.heard (.closed channel)] (l.channelClosed s channel reason) := by
  unfold channelClosed
  split
  · exact (Writes.closedEnds hl hs hloop).writing
  · split
    · have h := (Writes.closedFails hl hs hloop).writing
      simpa [Wrote, map_did_goto, withLoop] using h
    · split
      · exact (Writes.closedEnds hl hs hloop).writing
      · have h := (Writes.closedRetries hl hs hloop).writing
        simpa [Wrote, map_did_goto, withLoop] using h

theorem wrote_notice : Wrote l [] (l.notice s) := by
  unfold notice
  split
  · rename_i channel hloop
    exact (Writes.closes none hl hs hloop).writing
  · rename_i attempt hloop
    exact (Writes.leaves hl hs (by simp [hloop, Loop.state?]) (.inr rfl)).writing
  · rename_i attempt stage hloop
    exact (Writes.leaves hl hs (by simp [hloop, Loop.state?]) (.inr rfl)).writing
  · rename_i attempt hloop
    exact (Writes.leaves hl hs (by simp [hloop, Loop.state?]) (.inl rfl)).writing
  · exact .done l
  · exact .done l

theorem wrote_loopAttempt {g : Glance} {attempt : Nat} (hloop : s.loop = .ready attempt) :
    Wrote l [] (l.loopAttempt g s attempt) := by
  have hbegins := Writes.begins g .opening hl hs hloop
  -- where the loop stands before an attempt goes on does not matter to where it then stands
  have hadvance : ∀ a : Advance, (l.withLoop s (.attempting attempt .opening)).attemptAdvance
      { s with loop := .attempting attempt .opening } attempt a = l.attemptAdvance s attempt a := by
    intro a
    cases a with
    | asks a => rfl
    | fails f => rfl
  have h := Wrote.after hbegins (wrote_attemptAdvance (l := l.withLoop s (.attempting attempt .opening))
    hl rfl rfl (beginAttempt g s.refreshNext))
  rw [hadvance] at h
  exact h

/-- Whatever the loop takes, it writes by single moves. -/
theorem wrote_loopHears {g : Glance} {i : Input} {m : Move} (hm : LoopHears g i l s m) :
    Wrote l (if l.isAwaited i then [.heard i] else []) m := by
  have unheard : l.isAwaited i = l.isAnswer i → (∀ result, i ≠ .refreshed result) →
      (∀ result, i ≠ .opened result) → (if l.isAwaited i then [LogLine.heard i] else []) = [] := by
    intro hi hr ho
    rw [hi, isAnswer_eq_false hr ho]
    rfl
  cases hm with
  | noticed hc hi =>
    subst hi
    rw [unheard rfl (by simp) (by simp)]
    exact wrote_notice hl hs
  | fell hloop hi =>
    subst hi
    rw [unheard rfl (by simp) (by simp)]
    exact (Writes.closes _ hl hs hloop).writing
  | closed hloop hi =>
    subst hi
    rw [isAwaited_closed (isClosing_iff.2 ⟨s, _, hs, hloop⟩)]
    exact wrote_channelClosed hl hs hloop
  | elapsed hloop hi =>
    subst hi
    rw [unheard rfl (by simp) (by simp)]
    have h := (Writes.elapses hl hs hloop).writing
    simpa [Wrote, map_did_goto, withLoop] using h
  | began hloop hi =>
    subst hi
    rw [unheard rfl (by simp) (by simp)]
    exact wrote_loopAttempt hl hs hloop
  | @turned attempt stage turn hloop ht =>
    have hstage : l.stage? = some stage := by
      rw [stage?_of_unstarted hl, hs]
      simp [hloop, Loop.stage?]
    rw [isAwaited_of_isAnswer (isAnswer_of_turn hstage ht)]
    exact wrote_attemptTurn hl hs hloop ht

end Loop

/-- While no first attempt is made, the loop takes what is no call. -/
theorem hear_of_some {l : Listener} {s : Supervisor} (hl : Unstarted l) (hs : l.supervisor = some s)
    (g : Glance) {i : Input} (hi : ∀ ticket c, i ≠ .call ticket c) :
    l.hear g i = l.loopInput g s i := by
  unfold hear
  split
  · rename_i ticket c
    exact absurd rfl (hi ticket c)
  · split
    · rename_i ticket stage hst
      exact absurd hst (hl ticket stage)
    · rename_i s' hs' _
      rw [hs] at hs'
      cases hs'
      rfl
    · rename_i hnone _
      rw [hs] at hnone
      cases hnone

/-- A channel that is being closed is closed by the loop. -/
theorem hear_closed {l : Listener} (hc : Coherent l) {channel : Nat}
    (hclosing : l.isClosing channel = true) (g : Glance) :
    ∃ s reason, Unstarted l ∧ l.supervisor = some s ∧ s.loop = .closing channel reason ∧
      l.hear g (.closed channel) = l.channelClosed s channel reason := by
  obtain ⟨s, reason, hs, hloop⟩ := isClosing_iff.1 hclosing
  -- a listener that makes its first attempt has no loop
  have hl : Unstarted l := fun ticket stage h => by
    have hnone := (hc.starting ticket stage h).1
    rw [hs] at hnone
    cases hnone
  refine ⟨s, reason, hl, hs, hloop, ?_⟩
  rw [hear_of_some hl hs g (by simp)]
  simp [loopInput, hloop]

/-- Whatever an input does, it writes by single moves. -/
theorem wrote_hear {l : Listener} (hc : Coherent l) (g : Glance) (i : Input) :
    Wrote l (if l.isAwaited i then [.heard i] else []) (l.hear g i) := by
  rcases isAwaited_cases l i with hawaited | ⟨ticket, c, rfl⟩ | ⟨channel, rfl, hclosing⟩
  · have hears := hears_hear l g i
    generalize l.hear g i = m at hears
    cases hears with
    | nothing hi =>
      rw [hawaited, hi]
      exact .done l
    | queued hi =>
      subst hi
      exact (Writes.queued _ _).writing
    | firstTurn hl ht =>
      rw [hawaited, isAnswer_of_turn (stage?_of_starting hl) ht]
      exact wrote_firstTurn hl ht
    | looped hl hs hm => exact wrote_loopHears hl hs hm
  · exact (Writes.queued ticket c).writing
  · obtain ⟨s, reason, hl, hs, hloop, hhear⟩ := hear_closed hc hclosing g
    rw [hhear, isAwaited_closed hclosing]
    exact wrote_channelClosed hl hs hloop

/-! ## Calls -/

theorem finishStop_fst (l : Listener) (ticket : Nat) (disposing : Bool) :
    (l.finishStop ticket disposing).1 = l.finished disposing := by
  cases disposing <;> cases hst : l.state <;>
    simp [finishStop, finished, afterLoop_fst, dismiss_fst, rested, ListenerState.isTerminal, hst]

theorem map_did_finishStop (l : Listener) (ticket : Nat) (disposing : Bool) :
    (l.finishStop ticket disposing).2.map LogLine.did = l.finishLines ticket disposing := by
  cases disposing <;> cases ho : l.ownsSession <;> cases hst : l.state <;>
    simp [finishStop, finishLines, afterLoop, dismiss, goto, still, rested, shows,
      ListenerState.isTerminal, ho, hst]

/-- A call that ends the loop has its turn. -/
theorem wrote_beginStop {l : Listener} (hl : l.serving = .nothing) (ticket : Nat) (disposing : Bool)
    (hd : disposing = true → l.disposed = false) :
    Wrote l [.turn ticket (endingCall disposing)]
      ({ l with disposed := l.disposed || disposing }.beginStop ticket disposing) := by
  unfold beginStop
  split
  · rename_i hs
    have h := (Writes.settles ticket disposing hl hd hs).writing
    rw [Wrote, map_did_finishStop, finishStop_fst]
    exact h
  · rename_i s hs
    have hwaits := Writes.waits ticket disposing hl hd hs
    split
    · rename_i he
      have hjoins := Writes.joins (l := { l with
        disposed := l.disposed || disposing
        supervisor := some { s with cancelled := true }
        serving := .stopping ticket disposing }) rfl rfl he
      rw [Wrote, map_did_finishStop, finishStop_fst]
      exact .next hwaits hjoins.writing
    · exact hwaits.writing

/-- A call has its turn. -/
theorem wrote_serve {l : Listener} (hl : l.serving = .nothing) (g : Glance) (ticket : Nat)
    (c : Call) :
    Wrote l [.turn ticket c] (l.serve g ticket c) := by
  have hanswer : ∀ result, (l.answer ticket result).1 = l := by
    intro result
    rw [answer_fst, ← hl]
  cases c with
  | start =>
    simp only [serve]
    split
    · rename_i hd
      rw [Wrote, hanswer]
      exact (Writes.startRefused ticket hl hd).writing
    · rename_i hd
      rw [Bool.not_eq_true] at hd
      split
      · rename_i ht
        rw [Wrote, hanswer]
        exact (Writes.startFailed ticket hl hd (ListenerState.isTerminal_iff.1 ht)).writing
      · rename_i ht
        rw [ListenerState.isTerminal_iff] at ht
        split
        · rename_i hs
          rw [Wrote, hanswer]
          exact (Writes.startedAlready ticket hl hd hs).writing
        · rename_i hs
          have hstarts := Writes.starts g ticket .opening hl hd ht (by simpa using hs)
          have hfirst := wrote_begun_firstAdvance { l with state := .connecting } ticket .opening
            (beginAttempt g false)
          have h := hstarts.writing.append hfirst
          simpa [Wrote, firstAttempt, map_did_goto] using h
  | stop =>
    have h := wrote_beginStop hl ticket false (by simp)
    rwa [Bool.or_false] at h
  | dispose =>
    simp only [serve]
    split
    · rename_i hd
      rw [Wrote, hanswer]
      exact (Writes.disposedAlready ticket hl hd).writing
    · rename_i hd
      have h := wrote_beginStop hl ticket true (by simpa using hd)
      rwa [Bool.or_true] at h

/-! ## Steps and runs -/

theorem wrote_joinLoop (l : Listener) : Wrote l [] l.joinLoop := by
  unfold joinLoop
  split
  · rename_i hl hs
    split
    · rename_i he
      rw [Wrote, map_did_finishStop, finishStop_fst]
      exact (Writes.joins hl hs he).writing
    · exact .done l
  · exact .done l

theorem writing_serveAll (g : Glance) (queue : List (Nat × Call)) (l : Listener)
    (hl : l.serving = .nothing) :
    Writing l (serveLog g queue l) (serveAll g queue l).1 := by
  induction queue generalizing l with
  | nil => exact (Writes.dequeued []).writing
  | cons call rest ih =>
    obtain ⟨ticket, c⟩ := call
    have hserve : Writing l (.turn ticket c :: (l.serve g ticket c).2.map .did)
        (l.serve g ticket c).1 := wrote_serve hl g ticket c
    simp only [serveLog, serveAll, andThen_fst]
    refine hserve.append ?_
    split
    · rename_i hn
      exact ih _ hn
    · exact (Writes.dequeued rest).writing

/-- The lines of a step are written by single moves. -/
theorem writing_stepLog {l : Listener} (hc : Coherent l) (g : Glance) (i : Input) :
    Writing l (l.stepLog g i) (l.step g i).1 := by
  refine (Writing.append (wrote_hear hc g i) (wrote_joinLoop _)).append ?_
  show Writing _ _ ((l.hear g i).1.joinLoop.1.serveNext g).1
  unfold serveNext
  split
  · rename_i hn
    exact writing_serveAll g _ _ hn
  · exact .done _

/-- **The log of a run is written by single moves.** -/
theorem writing_log (inputs : List (Glance × Input)) {l : Listener} (hc : Coherent l) :
    Writing l (l.log inputs) (l.run inputs).1 := by
  induction inputs generalizing l with
  | nil => exact .done l
  | cons input rest ih =>
    obtain ⟨g, i⟩ := input
    have hstep : Coherent (l.step g i).1 := (walks_step l g i hc).1
    exact (writing_stepLog hc g i).append (ih hstep)

end Listener

end Appliance
