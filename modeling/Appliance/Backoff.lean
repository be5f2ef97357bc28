import Appliance.Duration

/-!
# Back-off

How long to wait before the next attempt of an outage, whose attempts are
counted from one.

* `Backoff`       : always the same, or doubling up to a largest wait
* `Backoff.delay` : the wait before an attempt, which never gets shorter
-/

namespace Appliance

/-- How long to wait between attempts. -/
inductive Backoff where
  | fixed (delay : Duration)
  | exponential (initial max : Duration)
deriving DecidableEq

namespace Backoff

/-- How often a wait doubles at most. -/
def doublingLimit : Nat := 31

/-- The wait before the given attempt, of which the first is number one. -/
def delay (b : Backoff) (attempt : Nat) : Duration :=
  match b with
  | .fixed d => d
  | .exponential initial max =>
    (initial.times (1 <<< min (attempt - 1) doublingLimit)).shorter max

/-- No wait is longer than the largest one. -/
theorem delay_le_max (initial max : Duration) (attempt : Nat) :
    ((exponential initial max).delay attempt).nanos ≤ max.nanos := by
  rw [delay, Duration.nanos_shorter]
  exact Nat.min_le_right _ _

/-- Later waits are no shorter. -/
theorem delay_mono (b : Backoff) {attempt attempt' : Nat} (h : attempt ≤ attempt') :
    (b.delay attempt).nanos ≤ (b.delay attempt').nanos := by
  cases b with
  | fixed d => exact Nat.le_refl _
  | exponential initial max =>
    have hdoublings : min (attempt - 1) doublingLimit ≤ min (attempt' - 1) doublingLimit := by omega
    have hfactor : 1 <<< min (attempt - 1) doublingLimit ≤ 1 <<< min (attempt' - 1) doublingLimit := by
      rw [Nat.one_shiftLeft, Nat.one_shiftLeft]
      exact Nat.pow_le_pow_right (by decide) hdoublings
    have htimes := Duration.nanos_times_mono initial hfactor
    simp only [delay, Duration.nanos_shorter]
    omega

/-- The wait unless another is chosen. -/
def standard : Backoff := .fixed (Duration.ofSeconds 5)

/-- Attempts are counted up to this number. -/
def attemptLimit : Nat := 0xffffffff

/-- The number of the attempt after another. -/
def nextAttempt (attempt : Nat) : Nat := min (attempt + 1) attemptLimit

end Backoff

end Appliance
