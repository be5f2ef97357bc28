import Appliance.Proofs.Listener.Story
import Appliance.Proofs.Listener.Told

/-!
# A listener that is left to itself follows its script

A listener to which no more calls come is trying, holds a channel, or has given up. Whatever
it hears, it goes where the verdict of the input leads, if the input brings one, and shows
what that leads one to expect. What is still to come before the next verdict, the next
attempt, is kept apart, so that the statement holds after every single input.

* `Place`, `Alone`  — where a listener that is left to itself stands.
* `Follows`         — what a move does with a verdict.
* `follows_hear`    — every input is heard so, one lemma for each place.
* `follows_start`   — the first start begins an attempt.
* `follows_run`     — **a run follows its script.**
-/

namespace Appliance

namespace Listener

/-! ## Signs -/

@[simp] theorem signs_nil : signs [] = [] := rfl

@[simp] theorem signs_append (effects effects' : List Effect) :
    signs (effects ++ effects') = signs effects ++ signs effects' := List.filterMap_append

/-- The states among the signs are those that are shown. -/
theorem filterMap_state?_signs (effects : List Effect) :
    (signs effects).filterMap Sign.state? = shown effects := by
  rw [signs, shown, List.filterMap_filterMap]
  refine List.filterMap_congr fun effect _ => ?_
  cases effect <;> rfl

theorem signs_goto {l : Listener} {next : ListenerState} (h : l.state ≠ next) :
    signs (l.goto next).2 = [.shows next] := by
  rw [goto_snd, if_neg h]
  rfl

@[simp] theorem signs_ask (a : Ask) : signs [a.effect] = [] := by
  cases a <;> rfl

/-- The first retry comes after none. -/
theorem nextAttempt_zero : Backoff.nextAttempt 0 = 1 := rfl

/-! ## Where the listener stands -/

/-- What the listener is about. -/
inductive Standing where
  /-- It makes an attempt, or waits for the next one. -/
  | trying
  /-- It holds a channel. -/
  | holding
  /-- It has given up. -/
  | over
deriving DecidableEq

/-- The scripts that can be played from a standing on. -/
def Standing.Plays : Standing → List Verdict → Prop
  | .trying, script => isScript false script = true
  | .holding, script => isScript true script = true
  | .over, script => script = []

/-- `Goes st v st'`: the verdict `v`, if there is one, leads from `st` to `st'`. -/
inductive Goes : Standing → Option Verdict → Standing → Prop
  | stays (st : Standing) : Goes st none st
  /-- The session breaks off. -/
  | breaks (st : Standing) : Goes st none .over
  | connects : Goes .trying (some .connected) .holding
  | fails {f : Fault} (h : f.isFatal = false) : Goes .trying (some (.failed f)) .trying
  | failsForGood {f : Fault} (h : f.isFatal = true) : Goes .trying (some (.failed f)) .over
  | loses {reason : DisconnectReason} (h : reason.isPermanent = false) :
      Goes .holding (some (.lost reason)) .trying
  | losesForGood {reason : DisconnectReason} (h : reason.isPermanent = true) :
      Goes .holding (some (.lost reason)) .over

theorem Standing.plays_nil (st : Standing) : st.Plays [] := by
  cases st <;> rfl

theorem Goes.plays {st st' : Standing} {v : Option Verdict} (h : Goes st v st')
    {script : List Verdict} (hs : st'.Plays script) : st.Plays (v.toList ++ script) := by
  cases h with
  | stays => exact hs
  | breaks =>
    have : script = [] := hs
    subst this
    exact st.plays_nil
  | connects => exact hs
  | fails h => simpa [Standing.Plays, isScript, h] using hs
  | failsForGood h =>
    have : script = [] := hs
    simp [Standing.Plays, isScript, h, this]
  | loses h => simpa [Standing.Plays, isScript, h] using hs
  | losesForGood h =>
    have : script = [] := hs
    simp [Standing.Plays, isScript, h, this]

/-- `Place l st k`: `l` stands where `st` says, after `k` retries since the last channel. -/
inductive Place (l : Listener) : Standing → Nat → Prop
  | starting {ticket : Nat} {stage : Stage} (hl : l.serving = .starting ticket stage)
      (hs : l.supervisor = none) (hst : l.state = .connecting) : Place l .trying 0
  | waiting {s : Supervisor} {attempt : Nat} (hl : l.serving = .nothing)
      (hs : l.supervisor = some s) (hc : s.cancelled = false) (hloop : s.loop = .waiting attempt)
      (hst : l.state = .retryScheduled) : Place l .trying attempt
  | ready {s : Supervisor} {attempt : Nat} (hl : l.serving = .nothing)
      (hs : l.supervisor = some s) (hc : s.cancelled = false) (hloop : s.loop = .ready attempt)
      (hst : l.state = .connecting) : Place l .trying attempt
  | attempting {s : Supervisor} {attempt : Nat} {stage : Stage} (hl : l.serving = .nothing)
      (hs : l.supervisor = some s) (hc : s.cancelled = false)
      (hloop : s.loop = .attempting attempt stage) (hst : l.state = .connecting) :
      Place l .trying attempt
  | watching {s : Supervisor} {channel : Nat} (hl : l.serving = .nothing)
      (hs : l.supervisor = some s) (hc : s.cancelled = false) (hloop : s.loop = .watching channel)
      (hst : l.state = .connected) : Place l .holding 0
  | closing {s : Supervisor} {channel : Nat} {reason : DisconnectReason}
      (hl : l.serving = .nothing) (hs : l.supervisor = some s) (hc : s.cancelled = false)
      (hloop : s.loop = .closing channel (some reason)) (hst : l.state = .connected) :
      Place l .holding 0
  | over {k : Nat} (hl : l.serving = .nothing)
      (hs : ∀ s, l.supervisor = some s → s.cancelled = false ∧ s.loop = .ended) : Place l .over k

/-- `Alone b q st k l`: `l` is left to itself, while the calls `q` wait for their turn, and
stands where `st` says, after `k` retries since the last channel. -/
structure Alone (b : Backoff) (q : List (Nat × Call)) (st : Standing) (k : Nat) (l : Listener) :
    Prop where
  backoff : l.backoff = b
  queue : l.queue = q
  place : Place l st k

/-- `Follows b q st k out v m`: from a listener that stands at `st` after `k` retries and has
`out` still to show, the move `m` goes where the verdict `v` leads and shows what that leads
one to expect. -/
structure Follows (b : Backoff) (q : List (Nat × Call)) (st : Standing) (k : Nat)
    (out : List Sign) (v : Option Verdict) (m : Move) : Prop where
  goes : ∃ st', Goes st v st' ∧ Alone b q st' (v.toList.foldl Verdict.count k) m.1
  signs : signs m.2 ++ m.1.outstanding = out ++ expected b k v.toList

section Moves

variable {b : Backoff} {q : List (Nat × Call)} {l : Listener} (hb : l.backoff = b)
  (hq : l.queue = q)
include hb hq

/-- A move without a verdict that stays. -/
theorem Follows.of_stays {st : Standing} {k : Nat} {out : List Sign} {m : Move}
    (hb' : m.1.backoff = l.backoff) (hq' : m.1.queue = l.queue) (hp : Place m.1 st k)
    (hs : Listener.signs m.2 ++ m.1.outstanding = out) : Follows b q st k out none m where
  goes := ⟨st, .stays st, hb'.trans hb, hq'.trans hq, hp⟩
  signs := by simp [hs, expected]

theorem follows_still {st : Standing} {k : Nat} (hp : Place l st k) :
    Follows b q st k l.outstanding none (still l) :=
  .of_stays hb hq rfl rfl hp (by simp)

/-! ## The first attempt -/

theorem follows_firstFailed (hs : l.supervisor = none) (hst : l.state = .connecting)
    (ticket : Nat) (f : Fault) :
    Follows b q .trying 0 [] (some (.failed f)) (l.firstFailed ticket f) := by
  unfold firstFailed
  split
  · next hf =>
    have hsigns : Listener.signs (l.goto .permanentlyFailed).2 = [.shows .permanentlyFailed] :=
      signs_goto (by simp [hst])
    refine ⟨⟨.over, .failsForGood hf, hb, hq, .over rfl (by simp [hs])⟩, ?_⟩
    rw [andThen_snd, signs_append, hsigns, Option.toList_some,
      expected_singleton, Verdict.signs_of_isFinal b _ (v := .failed f) (by simp) hf]
    simp [Listener.signs, Effect.sign?, outstanding, hs]
  · next hf =>
    have hf : f.isFatal = false := by simpa using hf
    have hr : (Verdict.failed f).retries = true := by simp [Verdict.retries, Verdict.isFinal, hf]
    refine ⟨⟨.trying, .fails hf, hb, hq, ?_⟩, ?_⟩
    · rw [Option.toList_some, List.foldl_cons, List.foldl_nil, Verdict.count_of_retries _ hr]
      exact .waiting rfl rfl rfl rfl rfl
    rw [andThen_snd, also_snd, signs_append, signs_append, signs_goto (by simp [hst]),
      Option.toList_some, expected_singleton, Verdict.signs_of_retries b _ hr]
    simp [Listener.signs, Effect.sign?, outstanding, nextAttempt_zero, hb]

theorem follows_firstAdvance (hs : l.supervisor = none) (hst : l.state = .connecting)
    (ticket : Nat) (a : Advance) :
    Follows b q .trying 0 [] a.verdict? (l.firstAdvance ticket a) := by
  cases a with
  | asks a =>
    refine .of_stays hb hq rfl rfl (.starting rfl hs hst) ?_
    simp [firstAdvance, outstanding, hs]
  | fails f => exact follows_firstFailed hb hq hs hst ticket f

theorem follows_firstTurn (hs : l.supervisor = none) (hst : l.state = .connecting)
    (ticket : Nat) (turn : Turn) :
    Follows b q .trying 0 [] turn.verdict? (l.firstTurn ticket turn) := by
  cases turn with
  | advances a => exact follows_firstAdvance hb hq hs hst ticket a
  | opens channel =>
    refine ⟨⟨.holding, .connects, hb, hq, .watching rfl rfl rfl rfl rfl⟩, ?_⟩
    rw [firstTurn, firstOpened, andThen_snd, signs_append, signs_goto (by simp [hst])]
    simp [expected, Verdict.signs, Turn.verdict?, Listener.signs, Effect.sign?, outstanding]
  | breaks =>
    refine ⟨⟨.over, .breaks _, hb, hq, .over rfl (by simp [firstTurn, hs])⟩, ?_⟩
    simp [firstTurn, expected, Turn.verdict?, Listener.signs, Effect.sign?, outstanding, hs]

/-! ## The attempts of the loop -/

section Loop

variable {s : Supervisor} (hl : l.serving = .nothing) (hc : s.cancelled = false)
include hl hc

theorem follows_attemptFailed (hst : l.state = .connecting) (attempt : Nat) (f : Fault) :
    Follows b q .trying attempt [] (some (.failed f)) (l.attemptFailed s attempt f) := by
  unfold attemptFailed
  split
  · next hf =>
    refine ⟨⟨.over, .failsForGood hf, hb, hq, .over hl ?_⟩, ?_⟩
    · rintro s' ⟨⟩
      exact ⟨hc, rfl⟩
    · rw [signs_goto (by simp [withLoop, hst]), Option.toList_some,
      expected_singleton, Verdict.signs_of_isFinal b _ (v := .failed f) (by simp) hf]
      simp [outstanding, withLoop]
  · next hf =>
    have hf : f.isFatal = false := by simpa using hf
    have hr : (Verdict.failed f).retries = true := by simp [Verdict.retries, Verdict.isFinal, hf]
    refine ⟨⟨.trying, .fails hf, hb, hq, ?_⟩, ?_⟩
    · rw [Option.toList_some, List.foldl_cons, List.foldl_nil, Verdict.count_of_retries _ hr]
      exact .waiting hl rfl hc rfl rfl
    rw [also_snd, signs_append, signs_goto (by simp [withLoop, hst]), Option.toList_some,
      expected_singleton, Verdict.signs_of_retries b _ hr]
    simp [Listener.signs, Effect.sign?, outstanding, withLoop, hb]

theorem follows_attemptAdvance (hst : l.state = .connecting) (attempt : Nat) (a : Advance) :
    Follows b q .trying attempt [] a.verdict? (l.attemptAdvance s attempt a) := by
  cases a with
  | asks a =>
    refine .of_stays hb hq rfl rfl (.attempting hl rfl hc rfl hst) ?_
    simp [attemptAdvance, outstanding, withLoop]
  | fails f => exact follows_attemptFailed hb hq hl hc hst attempt f

theorem follows_attemptTurn (hst : l.state = .connecting) (attempt : Nat) (turn : Turn) :
    Follows b q .trying attempt [] turn.verdict? (l.attemptTurn s attempt turn) := by
  cases turn with
  | advances a => exact follows_attemptAdvance hb hq hl hc hst attempt a
  | opens channel =>
    refine ⟨⟨.holding, .connects, hb, hq, .watching hl rfl hc rfl rfl⟩, ?_⟩
    rw [attemptTurn, attemptOpened, signs_goto (by simp [withLoop, hst])]
    simp [expected, Verdict.signs, Turn.verdict?, outstanding, withLoop]
  | breaks =>
    refine ⟨⟨.over, .breaks _, hb, hq, .over hl ?_⟩, ?_⟩
    · rintro s' ⟨⟩
      exact ⟨hc, rfl⟩
    · simp [attemptTurn, expected, Turn.verdict?, outstanding, withLoop]

theorem follows_channelClosed (hst : l.state = .connected) (channel : Nat)
    (reason : DisconnectReason) :
    Follows b q .holding 0 [] (some (.lost reason)) (l.channelClosed s channel (some reason)) := by
  simp only [channelClosed]
  split
  · next hr =>
    refine ⟨⟨.over, .losesForGood hr, hb, hq, .over hl ?_⟩, ?_⟩
    · rintro s' ⟨⟩
      exact ⟨hc, rfl⟩
    · rw [also_snd, signs_append, signs_goto (by simp [withLoop, hst]), Option.toList_some,
        expected_singleton, Verdict.signs_of_isFinal b _ (v := .lost reason) (by simp) hr]
      simp [Listener.signs, Effect.sign?, outstanding, withLoop]
  · next hr =>
    have hr : reason.isPermanent = false := by simpa using hr
    -- a loop that shall not end takes no reason for its end
    rw [if_neg (by simp [hc])]
    have htries : (Verdict.lost reason).retries = true := by
      simp [Verdict.retries, Verdict.isFinal, hr]
    refine ⟨⟨.trying, .loses hr, hb, hq, ?_⟩, ?_⟩
    · rw [Option.toList_some, List.foldl_cons, List.foldl_nil, Verdict.count_of_retries _ htries]
      exact .waiting hl rfl hc rfl rfl
    rw [also_snd, signs_append, signs_goto (by simp [withLoop, hst]), Option.toList_some,
      expected_singleton, Verdict.signs_of_retries b _ htries]
    simp [Listener.signs, Effect.sign?, List.filterMap_cons, outstanding, nextAttempt_zero,
      withLoop, hb]

end Loop

/-! ## Inputs -/

section Inputs

variable {s : Supervisor} (hl : l.serving = .nothing) (hc : s.cancelled = false)
  (hs : l.supervisor = some s) (g : Glance) (i : Input)
include hl hc hs

omit hl hc hs in
/-- An input that the loop does not take, and that brings no verdict. -/
theorem follows_unheard {st : Standing} {k : Nat} (hp : Place l st k)
    (hv : l.verdict? g i = none) (hi : l.loopInput g s i = still l) :
    Follows b q st k l.outstanding (l.verdict? g i) (l.loopInput g s i) := by
  rw [hv, hi]
  exact follows_still hb hq hp

theorem follows_waiting {attempt : Nat} (hloop : s.loop = .waiting attempt)
    (hst : l.state = .retryScheduled) :
    Follows b q .trying attempt l.outstanding (l.verdict? g i) (l.loopInput g s i) := by
  have hv : l.verdict? g i = none := by simp [verdict?, hl, hs, hloop]
  by_cases hi : i = .elapsed
  · have hmove : l.loopInput g s i = (l.withLoop s (.ready attempt)).goto .connecting := by
      simp [loopInput, hloop, hi]
    rw [hv, hmove]
    refine .of_stays hb hq rfl rfl (.ready hl rfl hc rfl rfl) ?_
    rw [signs_goto (by simp [withLoop, hst])]
    simp [outstanding, hs, hloop, withLoop, Listener.attempting]
  · refine follows_unheard hb hq g i (.waiting hl hs hc hloop hst) hv ?_
    cases i <;> simp_all [loopInput]

theorem follows_ready {attempt : Nat} (hloop : s.loop = .ready attempt)
    (hst : l.state = .connecting) :
    Follows b q .trying attempt l.outstanding (l.verdict? g i) (l.loopInput g s i) := by
  by_cases hi : i = .proceed
  · have hv : l.verdict? g i = (beginAttempt g s.refreshNext).verdict? := by
      simp [verdict?, hl, hs, hloop, hi]
    have hmove : l.loopInput g s i = l.loopAttempt g s attempt := by simp [loopInput, hloop, hi]
    obtain ⟨hgoes, hsigns⟩ :=
      follows_attemptAdvance hb hq hl hc hst attempt (beginAttempt g s.refreshNext)
    rw [hv, hmove]
    refine ⟨hgoes, ?_⟩
    rw [loopAttempt, led_snd, led_fst]
    simpa [Listener.signs, Effect.sign?, outstanding, hs, hloop] using hsigns
  · refine follows_unheard hb hq g i (.ready hl hs hc hloop hst) ?_ ?_
    · cases i <;> simp_all [verdict?]
    · cases i <;> simp_all [loopInput]

theorem follows_attempting {attempt : Nat} {stage : Stage}
    (hloop : s.loop = .attempting attempt stage)
    (hst : l.state = .connecting) :
    Follows b q .trying attempt l.outstanding (l.verdict? g i) (l.loopInput g s i) := by
  have hv : l.verdict? g i = (turn? g stage i).bind Turn.verdict? := by
    simp [verdict?, hl, hs, hloop]
  have hout : l.outstanding = [] := by simp [outstanding, hs, hloop]
  cases ht : turn? g stage i with
  | some turn =>
    have hmove : l.loopInput g s i = l.attemptTurn s attempt turn := by
      cases i <;> simp_all [loopInput, turn?]
    rw [hv, hmove, hout, ht]
    exact follows_attemptTurn hb hq hl hc hst attempt turn
  | none =>
    refine follows_unheard hb hq g i (.attempting hl hs hc hloop hst) (by simp [hv, ht]) ?_
    cases i <;> simp_all [loopInput]

theorem follows_watching {channel : Nat} (hloop : s.loop = .watching channel)
    (hst : l.state = .connected) :
    Follows b q .holding 0 l.outstanding (l.verdict? g i) (l.loopInput g s i) := by
  have hv : l.verdict? g i = none := by simp [verdict?, hl, hs, hloop]
  by_cases hi : ∃ reason, i = .disconnected channel reason
  · obtain ⟨reason, rfl⟩ := hi
    have hmove : l.loopInput g s (.disconnected channel reason) =
        (l.withLoop s (.closing channel (some reason)), [.close channel]) := by
      simp [loopInput, hloop]
    rw [hv, hmove]
    refine .of_stays hb hq rfl rfl (.closing hl rfl hc rfl hst) ?_
    simp [Listener.signs, Effect.sign?, outstanding, hs, hloop, withLoop]
  · refine follows_unheard hb hq g i (.watching hl hs hc hloop hst) hv ?_
    cases i <;> simp_all [loopInput]

theorem follows_closing {channel : Nat} {reason : DisconnectReason}
    (hloop : s.loop = .closing channel (some reason)) (hst : l.state = .connected) :
    Follows b q .holding 0 l.outstanding (l.verdict? g i) (l.loopInput g s i) := by
  have hout : l.outstanding = [] := by simp [outstanding, hs, hloop]
  by_cases hi : i = .closed channel
  · have hv : l.verdict? g i = some (.lost reason) := by simp [verdict?, hl, hs, hloop, hi]
    have hmove : l.loopInput g s i = l.channelClosed s channel (some reason) := by
      simp [loopInput, hloop, hi]
    rw [hv, hmove, hout]
    exact follows_channelClosed hb hq hl hc hst channel reason
  · refine follows_unheard hb hq g i (.closing hl hs hc hloop hst) ?_ ?_
    · cases i <;> simp_all [verdict?]
    · cases i <;> simp_all [loopInput]

end Inputs

end Moves

/-- Whatever a listener that is left to itself hears, it follows the verdict that comes of it. -/
theorem follows_hear {b : Backoff} {q : List (Nat × Call)} {st : Standing} {k : Nat}
    {l : Listener} (h : Alone b q st k l) (g : Glance) {i : Input} (hi : i.isCall = false) :
    Follows b q st k l.outstanding (l.verdict? g i) (l.hear g i) := by
  obtain ⟨hb, hq, hp⟩ := h
  have hhear : ∀ s, l.serving = .nothing → l.supervisor = some s →
      l.hear g i = l.loopInput g s i := by
    intro s hl hs
    cases i <;> simp_all [hear, Input.isCall]
  cases hp with
  | @starting ticket stage hl hs hst =>
    have hmove : l.hear g i = l.firstInput g ticket stage i := by
      cases i <;> simp_all [hear, Input.isCall]
    have hv : l.verdict? g i = (turn? g stage i).bind Turn.verdict? := by simp [verdict?, hl]
    have hout : l.outstanding = [] := by simp [outstanding, hs]
    rw [hmove, hv, firstInput]
    cases turn? g stage i with
    | some turn =>
      rw [hout]
      exact follows_firstTurn hb hq hs hst ticket turn
    | none => exact follows_still hb hq (.starting hl hs hst)
  | waiting hl hs hc hloop hst =>
    rw [hhear _ hl hs]
    exact follows_waiting hb hq hl hc hs g i hloop hst
  | ready hl hs hc hloop hst =>
    rw [hhear _ hl hs]
    exact follows_ready hb hq hl hc hs g i hloop hst
  | attempting hl hs hc hloop hst =>
    rw [hhear _ hl hs]
    exact follows_attempting hb hq hl hc hs g i hloop hst
  | watching hl hs hc hloop hst =>
    rw [hhear _ hl hs]
    exact follows_watching hb hq hl hc hs g i hloop hst
  | closing hl hs hc hloop hst =>
    rw [hhear _ hl hs]
    exact follows_closing hb hq hl hc hs g i hloop hst
  | «over» hl hs =>
    have hv : l.verdict? g i = none := by
      cases hsup : l.supervisor with
      | none => simp [verdict?, hl, hsup]
      | some s => simp [verdict?, hl, hsup, (hs s hsup).2]
    have hmove : l.hear g i = still l := by
      cases hsup : l.supervisor with
      | none => cases i <;> simp_all [hear, Input.isCall]
      | some s =>
        rw [hhear s hl hsup]
        cases i <;> simp [loopInput, hs s hsup]
    rw [hv, hmove]
    exact follows_still hb hq (.over hl hs)

/-! ## Steps and runs -/

theorem Place.not_stopping {l : Listener} {st : Standing} {k : Nat} (h : Place l st k)
    (ticket : Nat) (disposing : Bool) : l.serving ≠ .stopping ticket disposing := by
  cases h with
  | starting hl _ _ => simp [hl]
  | waiting hl _ _ _ _ => simp [hl]
  | ready hl _ _ _ _ => simp [hl]
  | attempting hl _ _ _ _ => simp [hl]
  | watching hl _ _ _ _ => simp [hl]
  | closing hl _ _ _ _ => simp [hl]
  | «over» hl _ => simp [hl]

theorem Place.joinLoop_eq {l : Listener} {st : Standing} {k : Nat} (h : Place l st k) :
    l.joinLoop = still l := by
  unfold joinLoop
  split
  · next hl _ => exact absurd hl (h.not_stopping _ _)
  · rfl

theorem Place.with_queue {l : Listener} {st : Standing} {k : Nat} (h : Place l st k)
    (queue : List (Nat × Call)) : Place { l with queue } st k := by
  cases h with
  | starting hl hs hst => exact .starting hl hs hst
  | waiting hl hs hc hloop hst => exact .waiting hl hs hc hloop hst
  | ready hl hs hc hloop hst => exact .ready hl hs hc hloop hst
  | attempting hl hs hc hloop hst => exact .attempting hl hs hc hloop hst
  | watching hl hs hc hloop hst => exact .watching hl hs hc hloop hst
  | closing hl hs hc hloop hst => exact .closing hl hs hc hloop hst
  | «over» hl hs => exact .over hl hs

/-- Where no call waits, none has its turn. -/
theorem serveNext_of_empty {l : Listener} (h : l.queue = []) (g : Glance) :
    l.serveNext g = still l := by
  have hsame : ({ l with queue := [] } : Listener) = l := by rw [← h]
  unfold serveNext
  split
  · rw [h, serveAll, hsame]
  · rfl

/-- A listener that is left to itself has nothing to do but to hear its input. -/
theorem Alone.step_eq {b : Backoff} {st : Standing} {k : Nat} {l : Listener}
    (h : Alone b [] st k l) (g : Glance) {i : Input} (hi : i.isCall = false) :
    l.step g i = l.hear g i := by
  obtain ⟨st', -, halone⟩ := (follows_hear h g hi).goes
  refine Prod.ext ?_ ?_
  · simp [step, halone.place.joinLoop_eq, serveNext_of_empty halone.queue]
  · simp [step, halone.place.joinLoop_eq, serveNext_of_empty halone.queue]

/-- **A step follows the verdict that comes of its input.** -/
theorem follows_step {b : Backoff} {st : Standing} {k : Nat} {l : Listener}
    (h : Alone b [] st k l) (g : Glance) {i : Input} (hi : i.isCall = false) :
    Follows b [] st k l.outstanding (l.verdict? g i) (l.step g i) := by
  rw [h.step_eq g hi]
  exact follows_hear h g hi

/-- **A run follows its script.** It shows what the script leads one to expect, up to what it
has still to show at its end. -/
theorem follows_run {b : Backoff} {st : Standing} {k : Nat} {l : Listener}
    {inputs : List (Glance × Input)} (h : Alone b [] st k l)
    (hi : ∀ x ∈ inputs, x.2.isCall = false) :
    st.Plays (l.verdicts inputs) ∧
      signs (l.run inputs).2 ++ (l.run inputs).1.outstanding =
        l.outstanding ++ expected b k (l.verdicts inputs) := by
  induction inputs generalizing l st k with
  | nil => exact ⟨st.plays_nil, by simp [run, verdicts, expected]⟩
  | cons x rest ih =>
    obtain ⟨g, i⟩ := x
    obtain ⟨⟨st', hgoes, halone⟩, hsigns⟩ := follows_step h g (hi (g, i) List.mem_cons_self)
    obtain ⟨hplays, hrest⟩ := ih halone fun x hx => hi x (List.mem_cons_of_mem _ hx)
    refine ⟨hgoes.plays hplays, ?_⟩
    rw [verdicts, run, andThen_fst, andThen_snd, signs_append, List.append_assoc, hrest,
      expected_append, ← List.append_assoc, ← List.append_assoc, hsigns]

/-- The first start makes an attempt, and leaves no call that waits. -/
theorem step_start (b : Backoff) (ownsSession : Bool) (ticket : Nat) (g : Glance) :
    ∃ m : Move, m = firstAdvance
        { fresh b ownsSession with state := .connecting, queue := [(ticket, .start)] } ticket
        (beginAttempt g false) ∧
      (fresh b ownsSession).step g (.call ticket .start) =
        ({ m.1 with queue := [] }, .show .connecting :: .attempt true g :: m.2) := by
  refine ⟨_, rfl, ?_⟩
  have hserve : (fresh b ownsSession).step g (.call ticket .start) =
      serveAll g [(ticket, .start)] { fresh b ownsSession with queue := [(ticket, .start)] } := rfl
  rw [hserve, serveAll]
  refine Prod.ext ?_ ?_
  · -- the queue is empty whether or not the attempt has ended
    simp only [andThen_fst, serveAll, ite_self]
    rfl
  · simp only [andThen_snd, serveAll, ite_self]
    simp [serve, fresh, firstAttempt, ListenerState.isTerminal, goto]

/-- A listener that is started for the first time begins an attempt, and follows what comes
of it. -/
theorem follows_start (b : Backoff) (ownsSession : Bool) (ticket : Nat) (g : Glance) :
    Follows b [] .trying 0 Listener.attempting (beginAttempt g false).verdict?
      ((fresh b ownsSession).step g (.call ticket .start)) := by
  obtain ⟨m, hm, hstep⟩ := step_start b ownsSession ticket g
  have hfirst : Follows b [(ticket, .start)] .trying 0 [] (beginAttempt g false).verdict? m := by
    subst hm
    refine follows_firstAdvance ?_ ?_ ?_ ?_ ticket (beginAttempt g false)
    all_goals rfl
  obtain ⟨⟨st', hgoes, hb, -, hplace⟩, hsigns⟩ := hfirst
  rw [hstep]
  refine ⟨⟨st', hgoes, hb, rfl, hplace.with_queue []⟩, ?_⟩
  have hsame : outstanding { m.1 with queue := [] } = m.1.outstanding := rfl
  rw [hsame]
  simpa [Listener.signs, Effect.sign?, Listener.attempting] using hsigns

end Listener

end Appliance
