import Appliance.Listener.History

/-!
# The course of a listener

A listener that was started once and is left to itself makes attempts, holds the channels
that they open, and waits before it tries again. What comes of its attempts and channels is
a script, and the script tells all that is to be seen of the listener.

* `Verdict`           : what comes of an attempt or of a channel
* `isScript`          : the verdicts that can come one after another
* `Sign`, `signs`     : what is to be seen of a listener
* `story`             : what a script leads one to expect
* `Schedule`          : what the retries among signs obey
* `verdicts`, `played` : the script that a run plays
* `outstanding`       : what a listener has still to show before the next verdict
* `enactment`         : a run that plays a given script
-/

namespace Appliance.Listener

/-! ## Scripts -/

/-- What comes of an attempt, or of the channel that it has opened. -/
inductive Verdict where
  | connected
  | failed (f : Fault)
  | lost (reason : DisconnectReason)
deriving DecidableEq

namespace Verdict

/-- Whether the listener gives up. -/
def isFinal : Verdict → Bool
  | .connected => false
  | .failed f => f.isFatal
  | .lost reason => reason.isPermanent

/-- Whether the listener tries again. -/
def retries (v : Verdict) : Bool := v ≠ .connected && !v.isFinal

end Verdict

/-- Whether verdicts can come one after another: those on attempts while no channel is held,
and that on a channel once an attempt has opened it. Nothing comes after a final one. -/
def isScript : (holding : Bool) → List Verdict → Bool
  | _, [] => true
  | false, .connected :: rest => isScript true rest
  | false, .failed f :: rest => if f.isFatal then rest.isEmpty else isScript false rest
  | true, .lost reason :: rest =>
    if reason.isPermanent then rest.isEmpty else isScript false rest
  | _, _ => false

/-! ## Signs -/

/-- What is to be seen of a listener: the states that it shows, and the waits and attempts
that it begins. -/
inductive Sign where
  | shows (state : ListenerState)
  | waits (delay : Duration)
  | attempts
deriving DecidableEq

/-- The sign of an effect. -/
def Effect.sign? : Effect → Option Sign
  | .show state => some (.shows state)
  | .wait delay => some (.waits delay)
  | .attempt _ _ => some .attempts
  | _ => none

/-- The signs among effects. -/
def signs (effects : List Effect) : List Sign := effects.filterMap Effect.sign?

/-- The state of a sign. -/
def Sign.state? : Sign → Option ListenerState
  | .shows state => some state
  | _ => none

/-- Counts retries, anew whenever a channel is opened. -/
def Sign.tally (count : Nat) : Sign → Nat
  | .shows .connected => 0
  | .shows .retryScheduled => count + 1
  | _ => count

/-- How often a retry was scheduled since a channel was opened last, or ever if none was. -/
def retriesSince (signs : List Sign) : Nat := signs.foldl Sign.tally 0

/-! ## What a script leads one to expect -/

/-- An attempt that begins. -/
def attempting : List Sign := [.shows .connecting, .attempts]

namespace Verdict

/-- What a verdict leads one to expect after the given number of retries. -/
def signs (b : Backoff) (count : Nat) (v : Verdict) : List Sign :=
  if v = .connected then [.shows .connected]
  else if v.isFinal then [.shows .permanentlyFailed]
  else .shows .retryScheduled :: .waits (b.delay (Backoff.nextAttempt count)) :: attempting

/-- The number of retries after a verdict. -/
def count (before : Nat) (v : Verdict) : Nat :=
  if v = .connected then 0 else if v.isFinal then before else Backoff.nextAttempt before

end Verdict

/-- What verdicts lead one to expect after the given number of retries. -/
def expected (b : Backoff) : (count : Nat) → List Verdict → List Sign
  | _, [] => []
  | count, v :: rest => v.signs b count ++ expected b (v.count count) rest

/-- What a script leads one to expect of a listener that is started. -/
def story (b : Backoff) (script : List Verdict) : List Sign := attempting ++ expected b 0 script

/-- What the retries of a listener obey. -/
structure Schedule (b : Backoff) (seen : List Sign) : Prop where
  /-- The `k`-th retry of an outage is followed by the `k`-th wait, and that by one attempt,
  of which something comes before the next one. -/
  retry : ∀ before after, seen = before ++ .shows .retryScheduled :: after →
    ∃ rest, after = .waits (b.delay (min (retriesSince before + 1) Backoff.attemptLimit)) ::
        .shows .connecting :: .attempts :: rest ∧
      ∀ sign ∈ rest.head?, sign = .shows .connected ∨ sign = .shows .retryScheduled ∨
        sign = .shows .permanentlyFailed
  /-- There is no other wait. -/
  wait : ∀ before d after, seen = before ++ .waits d :: after →
    ∃ earlier, before = earlier ++ [.shows .retryScheduled]
  /-- The waits of one outage never get shorter. -/
  rising : ∀ before d between d' after,
    seen = before ++ .waits d :: between ++ .waits d' :: after →
    .shows .connected ∉ between → d.nanos ≤ d'.nanos
  /-- No wait is longer than the largest one. -/
  capped : ∀ initial max, b = .exponential initial max → ∀ d, .waits d ∈ seen →
    d.nanos ≤ max.nanos
  /-- After every channel the waits begin anew. -/
  restart : ∀ before between d after,
    seen = before ++ .shows .connected :: between ++ .shows .retryScheduled :: .waits d :: after →
    .shows .retryScheduled ∉ between → d = b.delay 1

/-! ## The script of a run -/

/-- The verdict of an attempt that goes on, if there is one. -/
def Advance.verdict? : Advance → Option Verdict
  | .asks _ => none
  | .fails f => some (.failed f)

/-- The verdict of an answer, if there is one. -/
def Turn.verdict? : Turn → Option Verdict
  | .advances a => a.verdict?
  | .opens _ => some .connected
  | .breaks => none

/-- The verdict that an input brings, if it brings one. -/
def verdict? (l : Listener) (g : Glance) (input : Input) : Option Verdict :=
  match l.serving, l.supervisor with
  | .starting _ stage, _ => (turn? g stage input).bind Turn.verdict?
  | _, some s =>
    match s.loop, input with
    | .ready _, .proceed => (beginAttempt g s.refreshNext).verdict?
    | .attempting _ stage, input => (turn? g stage input).bind Turn.verdict?
    | .closing channel (some reason), .closed n =>
      if n = channel then some (.lost reason) else none
    | _, _ => none
  | _, none => none

/-- The verdicts that inputs bring. -/
def verdicts (l : Listener) : List (Glance × Input) → List Verdict
  | [] => []
  | (g, input) :: rest => (l.verdict? g input).toList ++ (l.step g input).1.verdicts rest

/-- The script that a run plays which begins with a start. The first attempt may fail at
once, for want of a token. -/
def played (l : Listener) (ticket : Nat) (g : Glance) (inputs : List (Glance × Input)) :
    List Verdict :=
  (beginAttempt g false).verdict?.toList ++ (l.step g (.call ticket .start)).1.verdicts inputs

/-- What a listener has still to show before the next verdict. -/
def outstanding (l : Listener) : List Sign :=
  match l.supervisor with
  | some s =>
    match s.loop with
    | .waiting _ => attempting
    | .ready _ => [.attempts]
    | _ => []
  | none => []

/-- Whether an input is a call. -/
def Input.isCall : Input → Bool
  | .call _ _ => true
  | _ => false

/-- The inputs that bring a verdict, and then the next attempt as far as a channel is asked
for. All channels have the number 0. -/
def Verdict.inputs : Verdict → List Input
  | .connected => [.opened (.ok 0)]
  | .failed f => [.opened (.error f), .elapsed, .proceed, .refreshed (.ok ())]
  | .lost reason =>
    [.disconnected 0 reason, .closed 0, .elapsed, .proceed, .refreshed (.ok ())]

/-- A run that plays a script, while the session shows the same at all times. -/
def enactment (g : Glance) (script : List Verdict) : List (Glance × Input) :=
  (script.flatMap Verdict.inputs).map fun input => (g, input)

end Appliance.Listener
