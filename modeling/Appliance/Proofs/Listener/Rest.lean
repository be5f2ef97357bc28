import Appliance.Listener.Tenure
import Appliance.Proofs.Listener.Rules

/-!
# Listeners at rest

A listener that was stopped does nothing until it is started again or disposed of, and one
that was disposed of does nothing any more, besides answering the calls made of it.

* `shownAfter`, `disposalsIn` — what a log tells of the state and of the session.
* `restRule`      — the rule that a log obeys about rest.
* `kept_restRule` — every single move obeys it.
-/

namespace Appliance

namespace Listener

/-! ## Rest in a log -/

/-- The state that is shown after a line, given the one that was shown before it. -/
def LogLine.shown (state : ListenerState) : LogLine → ListenerState
  | .did (.show next) => next
  | _ => state

/-- The state that is shown after some lines. -/
def shownAfter (state : ListenerState) (lines : List LogLine) : ListenerState :=
  lines.foldl LogLine.shown state

/-- How often the session was disposed of. -/
def disposalsIn (lines : List LogLine) : Nat :=
  lines.countP fun
    | .did .disposeSession => true
    | _ => false

/-- What a listener that was disposed of answers. -/
def restAnswer : Call → Except TokenService.Failure Unit
  | .start => .error (.fault (.listener .disposed))
  | .stop | .dispose => .ok ()

/-! ## The rule -/

/-- How a listener is at rest. -/
inductive Rest where
  | active
  /-- It was stopped. -/
  | stopped
  /-- It was disposed of. -/
  | retired
deriving DecidableEq

/-- What the lines about rest lead to. -/
structure RestNote where
  rest : Rest
  state : ListenerState
  disposals : Nat

/-- The note after a line. -/
def RestNote.next (k : RestNote) (served : Option (Nat × Call)) : LogLine → RestNote
  | .turn _ c => { k with rest := if k.rest = .stopped ∧ c ≠ .stop then .active else k.rest }
  | .did (.show state) => { k with state }
  | .did .disposeSession => { k with disposals := k.disposals + 1 }
  | .did (.reply _ _) =>
    match served with
    | some (_, .stop) => { k with rest := if k.rest = .retired then .retired else .stopped }
    | some (_, .dispose) => { k with rest := .retired }
    | _ => k
  | _ => k

/-- `k.Answers owns c result`: an active listener may answer a call that way. -/
def RestNote.Answers (k : RestNote) (owns : Bool) : Call → Except TokenService.Failure Unit → Prop
  | .start, _ => True
  | .stop, result => result = .ok () ∧ (k.state = .disconnected ∨ k.state = .permanentlyFailed)
  | .dispose, result =>
    result = .ok () ∧ k.state = .permanentlyFailed ∧ k.disposals = owns.toNat

/-- A call that ends the loop is answered when the listener has come to rest, and from then
on calls are answered and nothing else is done. -/
def restRule (owns : Bool) : Rule RestNote where
  note := RestNote.next
  Allows k served line :=
    match k.rest, served with
    | .active, _ => ∀ ticket result, line = .did (.reply ticket result) →
        ∃ c, served = some (ticket, c) ∧ k.Answers owns c result
    | _, none => ∀ effect, line ≠ .did effect
    | rest, some (ticket, c) =>
      (rest = .stopped → c = .stop) ∧ line = .did (.reply ticket (restAnswer c))

@[simp] theorem restRule_note (owns : Bool) (k : RestNote) (served : Option (Nat × Call))
    (line : LogLine) : (restRule owns).note k served line = k.next served line := rfl

/-- `k.Sound owns`: a listener at rest shows the state that belongs to it, and its session
was disposed of if it has to be. -/
structure RestNote.Sound (k : RestNote) (owns : Bool) : Prop where
  stopped : k.rest = .stopped → k.state = .disconnected ∨ k.state = .permanentlyFailed
  retired : k.rest = .retired → k.state = .permanentlyFailed ∧ k.disposals = owns.toNat

/-! ## Lines -/

/-- `line.Plain`: the line leaves the call that is being served and the session alone. -/
def LogLine.Plain : LogLine → Prop
  | .turn _ _ | .did (.reply _ _) | .did .disposeSession => False
  | _ => True

theorem plain_shows {before after : ListenerState} : ∀ line ∈ shows before after, line.Plain := by
  unfold shows
  split <;> simp [LogLine.Plain]

theorem plain_ask (a : Ask) : (LogLine.did a.effect).Plain := by
  cases a <;> exact trivial

@[simp] theorem shownAfter_nil (state : ListenerState) : shownAfter state [] = state := rfl

@[simp] theorem shownAfter_cons (state : ListenerState) (line : LogLine) (lines : List LogLine) :
    shownAfter state (line :: lines) = shownAfter (line.shown state) lines := rfl

@[simp] theorem shownAfter_append (state : ListenerState) (lines lines' : List LogLine) :
    shownAfter state (lines ++ lines') = shownAfter (shownAfter state lines) lines' :=
  List.foldl_append

@[simp] theorem shownAfter_shows (before after : ListenerState) :
    shownAfter before (shows before after) = after := by
  unfold shows
  split
  · assumption
  · rfl

@[simp] theorem lineShown_ask (state : ListenerState) (a : Ask) :
    (LogLine.did a.effect).shown state = state := by
  cases a <;> rfl

/-- A plain line changes nothing but the state that is shown. -/
theorem next_plain (k : RestNote) (served : Option (Nat × Call)) {line : LogLine}
    (h : line.Plain) :
    k.next served line = { k with state := line.shown k.state } ∧ line.served served = served := by
  cases line with
  | heard i => exact ⟨rfl, rfl⟩
  | turn ticket c => exact h.elim
  | did effect =>
    cases effect with
    | reply ticket result => exact h.elim
    | disposeSession => exact h.elim
    | _ => exact ⟨rfl, rfl⟩

/-- While a listener is active, plain lines may come, and change nothing but the state that
is shown. -/
theorem leads_plain (owns : Bool) {k : RestNote} {lines : List LogLine} (hk : k.rest = .active)
    (h : ∀ line ∈ lines, line.Plain) (served : Option (Nat × Call)) :
    (restRule owns).Leads k served lines { k with state := shownAfter k.state lines } served := by
  induction lines generalizing k with
  | nil => exact ⟨trivial, rfl, rfl⟩
  | cons line rest ih =>
    have hline := h line List.mem_cons_self
    obtain ⟨hnext, hserved⟩ := next_plain k served hline
    have hallows : (restRule owns).Allows k served line := by
      simp only [restRule, hk]
      rintro ticket result rfl
      exact hline.elim
    have hrest := ih (k := { k with state := line.shown k.state }) hk
      fun x hx => h x (List.mem_cons_of_mem _ hx)
    exact .cons ⟨⟨hallows, trivial⟩, hnext, hserved⟩ hrest

/-- Going to a state changes nothing else. -/
theorem leads_shows (owns : Bool) {k : RestNote} (hk : k.rest = .active) {state : ListenerState}
    (hstate : k.state = state) (next : ListenerState) (served : Option (Nat × Call)) :
    (restRule owns).Leads k served (shows state next) { k with state := next } served := by
  subst hstate
  have hplain : ∀ line ∈ shows k.state next, line.Plain := plain_shows
  have h := leads_plain owns hk hplain served
  rwa [shownAfter_shows] at h

/-- The end of the session, if it is the listener's. -/
theorem leads_disposal (owns : Bool) {k : RestNote} (hk : k.rest = .active)
    (served : Option (Nat × Call)) :
    (restRule owns).Leads k served (if owns then [.did .disposeSession] else [])
      { k with disposals := k.disposals + owns.toNat } served := by
  cases owns with
  | false => exact ⟨trivial, rfl, rfl⟩
  | true => exact ⟨⟨by simp [restRule, hk], trivial⟩, rfl, rfl⟩

/-- What an active listener answers. -/
theorem leads_reply {owns : Bool} {k : RestNote} {c : Call}
    {result : Except TokenService.Failure Unit} (h : k.Answers owns c result)
    (hk : k.rest = .active) (ticket : Nat) :
    (restRule owns).Leads k (some (ticket, c)) [.did (.reply ticket result)]
      (k.next (some (ticket, c)) (.did (.reply ticket result))) none := by
  refine ⟨⟨?_, trivial⟩, rfl, rfl⟩
  simp only [restRule, hk]
  rintro ticket' result' ⟨⟩
  exact ⟨c, rfl, h⟩

theorem leads_startReply (owns : Bool) {k : RestNote} (hk : k.rest = .active) (ticket : Nat)
    (result : Except TokenService.Failure Unit) :
    (restRule owns).Leads k (some (ticket, .start)) [.did (.reply ticket result)] k none :=
  leads_reply (c := .start) trivial hk ticket

/-- An answer leaves a listener at rest, if the call does not wake it. -/
theorem next_reply {k : RestNote} (hk : k.rest ≠ .active) {c : Call}
    (hc : k.rest = .stopped → c = .stop) (ticket : Nat)
    (result : Except TokenService.Failure Unit) :
    k.next (some (ticket, c)) (.did (.reply ticket result)) = k := by
  obtain ⟨rest, state, disposals⟩ := k
  cases rest <;> cases c <;> simp_all [RestNote.next]

/-- A call has its turn. -/
theorem leads_turn (owns : Bool) (k : RestNote) (ticket : Nat) (c : Call) :
    (restRule owns).Leads k none [.turn ticket c]
      { k with rest := if k.rest = .stopped ∧ c ≠ .stop then .active else k.rest }
      (some (ticket, c)) := by
  refine ⟨⟨?_, trivial⟩, rfl, rfl⟩
  cases hk : k.rest <;> simp [restRule, hk]

/-! ## Every single move obeys the rule -/

/-- `RestsAs owns l k`: the note says how the listener rests. -/
structure RestsAs (owns : Bool) (l : Listener) (k : RestNote) : Prop where
  ownsSession : l.ownsSession = owns
  state : k.state = l.state
  sound : k.Sound owns
  fresh : k.rest ≠ .retired → k.disposals = 0
  idle : k.rest ≠ .active → l.serving = .nothing ∧ l.supervisor = none
  retired : k.rest = .retired → l.disposed = true
  disposed : l.disposed = true → k.rest = .retired ∨ ∃ ticket, l.serving = .stopping ticket true

section Moves

variable {owns : Bool} {l l' : Listener} {k : RestNote} (h : RestsAs owns l k)
include h

theorem RestsAs.active_of_some {s : Supervisor} (hs : l.supervisor = some s) :
    k.rest = .active := by
  by_contra hne
  rw [(h.idle hne).2] at hs
  cases hs

theorem RestsAs.active_of_serving (hl : l.serving ≠ .nothing) : k.rest = .active := by
  by_contra hne
  exact hl (h.idle hne).1

/-- A listener at rest that was disposed of is retired. -/
theorem RestsAs.retired_of_disposed (hl : l.serving = .nothing) (hd : l.disposed = true) :
    k.rest = .retired := by
  refine (h.disposed hd).resolve_right ?_
  rintro ⟨ticket, hst⟩
  rw [hl] at hst
  cases hst

theorem RestsAs.not_retired (hd : l.disposed = false) : k.rest ≠ .retired := by
  intro hr
  rw [h.retired hr] at hd
  cases hd

/-- An active listener moves on by plain lines. -/
theorem RestsAs.plain (hk : k.rest = .active) {lines : List LogLine}
    (hlines : ∀ line ∈ lines, line.Plain) (hstate : l'.state = shownAfter l.state lines)
    (howns : l'.ownsSession = l.ownsSession) (hdisposed : l'.disposed = l.disposed)
    (hserving : ∀ ticket, l.serving = .stopping ticket true → l'.serving = .stopping ticket true) :
    (restRule owns).Obeys k l.serving.call? lines ∧
      RestsAs owns l' ((restRule owns).noted k l.serving.call? lines) := by
  refine (leads_plain owns hk hlines _).keeps ?_
  exact {
    ownsSession := howns.trans h.ownsSession
    state := by rw [hstate, ← h.state]
    sound := ⟨fun hr => by simp [hk] at hr, fun hr => by simp [hk] at hr⟩
    fresh := h.fresh
    idle := fun hne => absurd hk hne
    retired := fun hr => by simp [hk] at hr
    disposed := fun hd => .inr <| by
      obtain ⟨ticket, hst⟩ := (h.disposed (hdisposed ▸ hd)).resolve_left (by simp [hk])
      exact ⟨ticket, hserving ticket hst⟩ }

/-- A call comes, or an answer: nothing is done. -/
theorem RestsAs.heard (i : Input) (queue : List (Nat × Call)) :
    (restRule owns).Obeys k l.serving.call? [.heard i] ∧
      RestsAs owns { l with queue } ((restRule owns).noted k l.serving.call? [.heard i]) := by
  refine ⟨⟨?_, trivial⟩, ⟨h.ownsSession, h.state, h.sound, h.fresh, h.idle, h.retired, h.disposed⟩⟩
  by_cases hk : k.rest = .active
  · simp [restRule, hk]
  · have hserved : l.serving.call? = none := by rw [(h.idle hk).1]; rfl
    rw [hserved]
    cases hrest : k.rest with
    | active => exact absurd hrest hk
    | _ => simp [restRule, hrest]

/-- The first attempt ends with the answer of the start. -/
theorem RestsAs.started (l' : Listener) {ticket : Nat} {stage : Stage} (hsteady : Steady l)
    (hl : l.serving = .starting ticket stage) {lines : List LogLine}
    (hlines : ∀ line ∈ lines, line.Plain) (result : Except TokenService.Failure Unit)
    (hstate : l'.state = shownAfter l.state lines) (howns : l'.ownsSession = l.ownsSession)
    (hdisposed : l'.disposed = l.disposed) :
    (restRule owns).Obeys k l.serving.call? (lines ++ [.did (.reply ticket result)]) ∧
      RestsAs owns l'
        ((restRule owns).noted k l.serving.call? (lines ++ [.did (.reply ticket result)])) := by
  have hk : k.rest = .active := h.active_of_serving (by simp [hl])
  have hd : l.disposed = false := (hsteady.starting _ _ hl).2
  have hcall : l.serving.call? = some (ticket, .start) := by rw [hl]; rfl
  have hreply := leads_startReply owns (k := { k with state := shownAfter k.state lines }) hk
    ticket result
  rw [hcall]
  refine ((leads_plain owns hk hlines _).append hreply).keeps ?_
  exact {
    ownsSession := howns.trans h.ownsSession
    state := by rw [hstate, ← h.state]
    sound := ⟨fun hr => by simp [hk] at hr, fun hr => by simp [hk] at hr⟩
    fresh := h.fresh
    idle := fun hne => absurd hk hne
    retired := fun hr => by simp [hk] at hr
    disposed := fun hd' => by simp [hdisposed, hd] at hd' }

/-- A listener that was not disposed of is active when a start or a disposal has its turn. -/
theorem RestsAs.awakes (hd : l.disposed = false) {c : Call} (hc : c ≠ .stop) (ticket : Nat) :
    (restRule owns).Leads k none [.turn ticket c] { k with rest := .active }
      (some (ticket, c)) := by
  have hrest : (if k.rest = .stopped ∧ c ≠ .stop then .active else k.rest) = Rest.active := by
    have hne := h.not_retired hd
    cases hk : k.rest <;> simp_all
  have hturn := leads_turn owns k ticket c
  rwa [hrest] at hturn

/-- The note of an active listener that is not being disposed of. -/
theorem RestsAs.active (hd : l.disposed = false) (howns : l'.ownsSession = l.ownsSession)
    (hd' : l'.disposed = false) :
    RestsAs owns l' { k with rest := .active, state := l'.state } where
  ownsSession := howns.trans h.ownsSession
  state := rfl
  sound := ⟨by simp, by simp⟩
  fresh := fun _ => h.fresh (h.not_retired hd)
  idle := by simp
  retired := by simp
  disposed := by simp [hd']

/-- A start that is only answered changes nothing, but that the listener counts as active. -/
theorem RestsAs.answered (hl : l.serving = .nothing) (hd : l.disposed = false) (ticket : Nat)
    (result : Except TokenService.Failure Unit) :
    (restRule owns).Obeys k l.serving.call? [.turn ticket .start, .did (.reply ticket result)] ∧
      RestsAs owns l ((restRule owns).noted k l.serving.call?
        [.turn ticket .start, .did (.reply ticket result)]) := by
  have hreply := leads_startReply owns (k := { k with rest := .active }) rfl ticket result
  have hactive := h.active hd rfl hd
  rw [← h.state] at hactive
  rw [hl]
  exact ((h.awakes hd (by simp) ticket).cons hreply).keeps hactive

/-- A listener that was disposed of answers a call and does nothing else. -/
theorem RestsAs.refused (hl : l.serving = .nothing) (hd : l.disposed = true) (ticket : Nat)
    (c : Call) :
    (restRule owns).Obeys k l.serving.call? [.turn ticket c, .did (.reply ticket (restAnswer c))] ∧
      RestsAs owns l ((restRule owns).noted k l.serving.call?
        [.turn ticket c, .did (.reply ticket (restAnswer c))]) := by
  have hk := h.retired_of_disposed hl hd
  have hnext := next_reply (k := k) (c := c) (by simp [hk]) (by simp [hk]) ticket (restAnswer c)
  have hturn := leads_turn owns k ticket c
  rw [if_neg (by simp [hk])] at hturn
  have hreply : (restRule owns).Leads k (some (ticket, c))
      [.did (.reply ticket (restAnswer c))] k none :=
    ⟨⟨by simp [restRule, hk], trivial⟩, hnext, rfl⟩
  rw [hl]
  exact (hturn.cons hreply).keeps h

end Moves

theorem rested_cases (state : ListenerState) :
    rested state = .disconnected ∨ rested state = .permanentlyFailed := by
  cases state <;> simp [rested, ListenerState.isTerminal]

/-- A call that ends the loop brings an active listener to rest. -/
theorem leads_finishLines {l : Listener} {k : RestNote} (hk : k.rest = .active)
    (hstate : k.state = l.state) (hdisposals : k.disposals = 0) (ticket : Nat) (disposing : Bool) :
    (restRule l.ownsSession).Leads k (some (ticket, endingCall disposing))
      (l.finishLines ticket disposing)
      ⟨if disposing then .retired else .stopped, (l.finished disposing).state,
        if disposing then l.ownsSession.toNat else 0⟩ none := by
  have hrest := leads_shows l.ownsSession hk hstate (rested l.state)
    (some (ticket, endingCall disposing))
  cases disposing with
  | false =>
    have hanswers : RestNote.Answers { k with state := rested l.state } l.ownsSession .stop
        (.ok ()) := ⟨rfl, rested_cases _⟩
    have hreply := leads_reply hanswers hk ticket
    have h := hrest.append hreply
    simpa [finishLines, RestNote.next, hk, hdisposals, finished] using h
  | true =>
    have hend := leads_disposal l.ownsSession (k := { k with state := rested l.state }) hk
      (some (ticket, endingCall true))
    have hfail := leads_shows l.ownsSession (k := { k with
      state := rested l.state, disposals := k.disposals + l.ownsSession.toNat }) hk rfl
      .permanentlyFailed (some (ticket, endingCall true))
    have hanswers : RestNote.Answers { k with
        state := .permanentlyFailed, disposals := k.disposals + l.ownsSession.toNat }
        l.ownsSession .dispose (.ok ()) := ⟨rfl, rfl, by simp [hdisposals]⟩
    have hreply := leads_reply hanswers hk ticket
    have h := (hrest.append (hend.append hfail)).append hreply
    simpa [finishLines, RestNote.next, hdisposals, finished] using h

/-- A listener that such a call has left. -/
theorem restsAs_finished {l : Listener} {disposing : Bool} (hd : l.disposed = disposing) :
    RestsAs l.ownsSession (l.finished disposing)
      ⟨if disposing then .retired else .stopped, (l.finished disposing).state,
        if disposing then l.ownsSession.toNat else 0⟩ where
  ownsSession := rfl
  state := rfl
  sound := by
    cases disposing with
    | false => exact ⟨fun _ => rested_cases l.state, fun hr => by simp at hr⟩
    | true => exact ⟨fun hr => by simp at hr, fun _ => ⟨rfl, rfl⟩⟩
  fresh := by cases disposing <;> simp
  idle := fun _ => ⟨rfl, rfl⟩
  retired := by cases disposing <;> simp [finished, hd]
  disposed := by cases disposing <;> simp [finished, hd]

/-- A stop of a listener that is at rest is only answered. -/
theorem finishLines_of_rested {l : Listener} (hl : l.serving = .nothing) (hs : l.supervisor = none)
    (hstate : rested l.state = l.state) (ticket : Nat) :
    l.finishLines ticket false = [.did (.reply ticket (.ok ()))] ∧ l.finished false = l := by
  constructor
  · simp [finishLines, hstate, shows]
  · simp only [finished, hstate, Bool.false_eq_true, if_false, ← hl, ← hs]

/-- A stop without a loop brings a listener to rest, or leaves it there. -/
theorem RestsAs.settled {owns : Bool} {l : Listener} {k : RestNote} (h : RestsAs owns l k)
    (hl : l.serving = .nothing) (hs : l.supervisor = none) (ticket : Nat) :
    (restRule owns).Obeys k l.serving.call? (.turn ticket .stop :: l.finishLines ticket false) ∧
      RestsAs owns ({ l with disposed := l.disposed || false }.finished false)
        ((restRule owns).noted k l.serving.call?
          (.turn ticket .stop :: l.finishLines ticket false)) := by
  simp only [Bool.or_false]
  have hrested : k.state = .disconnected ∨ k.state = .permanentlyFailed →
      rested l.state = l.state := by
    rw [h.state]
    rintro (hst | hst) <;> simp [hst, rested, ListenerState.isTerminal]
  have hturn := leads_turn owns k ticket .stop
  rw [if_neg (by simp)] at hturn
  cases hk : k.rest with
  | active =>
    have hd : l.disposed = false := by
      rw [← Bool.not_eq_true]
      intro hd
      have hretired := h.retired_of_disposed hl hd
      simp [hk] at hretired
    have howns := h.ownsSession
    subst howns
    rw [hl]
    exact (hturn.cons (leads_finishLines hk h.state (h.fresh (by simp [hk])) ticket false)).keeps
      (restsAs_finished hd)
  | stopped =>
    obtain ⟨hlines, hfinished⟩ :=
      finishLines_of_rested hl hs (hrested (h.sound.stopped hk)) ticket
    rw [hlines, hfinished, hl]
    have hnext := next_reply (k := k) (c := .stop) (by simp [hk]) (fun _ => rfl) ticket (.ok ())
    have hreply : (restRule owns).Leads k (some (ticket, .stop)) [.did (.reply ticket (.ok ()))]
        k none := ⟨⟨by simp [restRule, hk, restAnswer], trivial⟩, hnext, rfl⟩
    exact (hturn.cons hreply).keeps h
  | retired =>
    obtain ⟨hlines, hfinished⟩ :=
      finishLines_of_rested hl hs (hrested (.inr (h.sound.retired hk).1)) ticket
    rw [hlines, hfinished]
    exact h.refused hl (h.retired hk) ticket .stop

theorem kept_restRule (owns : Bool) : (restRule owns).Kept (RestsAs owns) := by
  intro l l' lines k hsteady h hw
  cases hw with
  | queued ticket c => exact h.heard _ _
  | dequeued queue =>
    exact ⟨trivial, ⟨h.ownsSession, h.state, h.sound, h.fresh, h.idle, h.retired, h.disposed⟩⟩
  | refreshed result => exact h.heard _ l.queue
  | refused f => exact h.heard _ l.queue
  | startRefused ticket hl hd => exact h.refused hl hd ticket .start
  | startFailed ticket hl hd ht => exact h.answered hl hd ticket _
  | startedAlready ticket hl hd hs => exact h.answered hl hd ticket _
  | disposedAlready ticket hl hd => exact h.refused hl hd ticket .dispose
  | starts g ticket stage hl hd ht hs =>
    have hlines : ∀ line ∈ shows l.state .connecting ++ [.did (.attempt true g)], line.Plain :=
      List.forall_mem_append.2 ⟨plain_shows, by simp [LogLine.Plain]⟩
    have hplain := leads_plain owns (k := { k with rest := .active }) rfl hlines
      (some (ticket, .start))
    have hstate : shownAfter k.state (shows l.state .connecting ++ [.did (.attempt true g)]) =
        .connecting := by simp [h.state, LogLine.shown]
    rw [hstate] at hplain
    rw [hl]
    exact ((h.awakes hd (by simp) ticket).cons hplain).keeps (h.active hd rfl hd)
  | firstAsks a hl =>
    exact h.plain (h.active_of_serving (by simp [hl])) (by simp [plain_ask]) (by simp) rfl rfl
      fun _ hst => by simp [hl] at hst
  | firstFails f hl => exact h.started _ hsteady hl plain_shows _ (by simp) rfl rfl
  | firstRetries f hl =>
    have hlines : ∀ line ∈ shows l.state .retryScheduled ++ [.did (.wait (l.backoff.delay 1))],
        line.Plain := List.forall_mem_append.2 ⟨plain_shows, by simp [LogLine.Plain]⟩
    have hs := h.started { l with
      supervisor := some ⟨.waiting 1, false, f.isTokenRefused⟩
      state := .retryScheduled
      serving := .nothing } hsteady hl hlines (.ok ()) (by simp [LogLine.shown]) rfl rfl
    simpa only [List.append_assoc, List.cons_append, List.nil_append] using hs
  | firstOpens channel hl =>
    have hlines : ∀ line ∈ .heard (.opened (.ok channel)) :: shows l.state .connected, line.Plain :=
      List.forall_mem_cons.2 ⟨trivial, plain_shows⟩
    exact h.started _ hsteady hl hlines _ (by simp [LogLine.shown]) rfl rfl
  | firstBreaks hl => exact h.started _ hsteady hl (List.forall_mem_nil _) _ rfl rfl rfl
  | begins g stage hl hs hloop =>
    exact h.plain (h.active_of_some hs) (by simp [LogLine.Plain]) rfl rfl rfl fun _ => id
  | asks a hl hs hloop =>
    exact h.plain (h.active_of_some hs) (by simp [plain_ask]) (by simp [withLoop]) rfl rfl
      fun _ => id
  | fails hl hs hloop =>
    exact h.plain (h.active_of_some hs) plain_shows (by simp) rfl rfl fun _ => id
  | retries f hl hs hloop =>
    exact h.plain (h.active_of_some hs)
      (List.forall_mem_append.2 ⟨plain_shows, by simp [LogLine.Plain]⟩)
      (by simp [LogLine.shown]) rfl rfl fun _ => id
  | opens channel hl hs hloop =>
    exact h.plain (h.active_of_some hs) (List.forall_mem_cons.2 ⟨trivial, plain_shows⟩)
      (by simp [LogLine.shown]) rfl rfl fun _ => id
  | breaks hl hs hloop => exact h.plain (h.active_of_some hs) (by simp) rfl rfl rfl fun _ => id
  | elapses hl hs hloop =>
    exact h.plain (h.active_of_some hs) plain_shows (by simp) rfl rfl fun _ => id
  | closes reason hl hs hloop =>
    exact h.plain (h.active_of_some hs) (by simp [LogLine.Plain]) rfl rfl rfl fun _ => id
  | closedEnds hl hs hloop =>
    exact h.plain (h.active_of_some hs) (by simp [LogLine.Plain]) rfl rfl rfl fun _ => id
  | closedFails hl hs hloop =>
    exact h.plain (h.active_of_some hs)
      (List.forall_mem_cons.2 ⟨trivial,
        List.forall_mem_append.2 ⟨plain_shows, by simp [LogLine.Plain]⟩⟩)
      (by simp [LogLine.shown]) rfl rfl fun _ => id
  | closedRetries hl hs hloop =>
    exact h.plain (h.active_of_some hs)
      (List.forall_mem_cons.2 ⟨trivial,
        List.forall_mem_append.2 ⟨plain_shows, by simp [LogLine.Plain]⟩⟩)
      (by simp [LogLine.shown]) rfl rfl fun _ => id
  | leaves hl hs hloop he =>
    rcases he with rfl | rfl
    · exact h.plain (h.active_of_some hs) (by simp) rfl rfl rfl fun _ => id
    · exact h.plain (h.active_of_some hs) (by simp [LogLine.Plain]) rfl rfl rfl fun _ => id
  | waits ticket disposing hl hd hs =>
    have hk := h.active_of_some hs
    have hturn := leads_turn owns k ticket (endingCall disposing)
    rw [if_neg (by simp [hk])] at hturn
    rw [hl]
    refine hturn.keeps ⟨h.ownsSession, h.state, h.sound, h.fresh, fun hne => absurd hk hne,
      fun hr => by simp [hk] at hr, fun hdisposed => ?_⟩
    cases disposing with
    | true => exact .inr ⟨ticket, rfl⟩
    | false =>
      have hretired := h.retired_of_disposed hl (by simpa using hdisposed)
      exact .inl hretired
  | @joins s ticket disposing hl hs he =>
    have hk := h.active_of_some hs
    have hd : l.disposed = disposing := by
      cases disposing with
      | true => exact (hsteady.stopping _ _ hl).2 rfl
      | false =>
        rw [← Bool.not_eq_true]
        intro hdisposed
        rcases h.disposed hdisposed with hr | ⟨_, hst⟩
        · simp [hk] at hr
        · simp [hl] at hst
    have howns := h.ownsSession
    subst howns
    rw [hl]
    exact (leads_finishLines hk h.state (h.fresh (by simp [hk])) ticket disposing).keeps
      (restsAs_finished hd)
  | settles ticket disposing hl hd hs =>
    cases disposing with
    | true =>
      have howns := h.ownsSession
      subst howns
      have hturn := h.awakes (hd rfl) (c := .dispose) (by simp) ticket
      have hfinish := leads_finishLines (k := { k with rest := .active }) rfl h.state
        (h.fresh (h.not_retired (hd rfl))) ticket true
      rw [hl]
      exact (hturn.cons hfinish).keeps
        (restsAs_finished (l := { l with disposed := l.disposed || true }) (Bool.or_true _))
    | false => exact h.settled hl hs ticket

end Listener

end Appliance
