import Appliance.Backoff
import Mathlib.Algebra.Group.Nat.Defs

/-!
# Where the doubling of a wait ends

The wait that grows doubles with every attempt up to a largest one: before the attempt `n` of an
outage it is `initial * 2 ^ (n - 1)`, or `max` if that is shorter. The doublings are counted no
further than thirty-one, though. Wherever the largest wait is reached by then this makes no
difference, and a wait of nothing stays one; a wait that starts so small that thirty-one
doublings do not reach the largest one grows no more.

* `doubled` — the wait by the formula, in exact nanoseconds.
* `nanos_doubled`, `nanos_delay` — the wait by the formula, and the one that is kept.
* `delay_eq_doubled_iff` — **exactly when the wait that is kept is the one of the formula.**
* `small_wait_grows_no_more` — a nanosecond, after thirty-two attempts.
-/

namespace Appliance.Backoff

variable (initial max : Duration) (attempt : Nat)

/-- The wait by the formula: `initial * 2 ^ (attempt - 1)` in exact nanoseconds, where what is
beyond the largest duration counts as that one, and at most `max`. -/
def doubled : Duration := (Duration.ofNanos (initial.nanos * 2 ^ (attempt - 1))).shorter max

/-- No product beyond the largest duration is ever shown, for `max` is shorter. -/
theorem nanos_shorter_ofNanos (n : Nat) :
    ((Duration.ofNanos n).shorter max).nanos = min n max.nanos := by
  have hmax := max.le_limit
  simp only [Duration.nanos_shorter, Duration.ofNanos]
  omega

theorem nanos_doubled :
    (doubled initial max attempt).nanos = min (initial.nanos * 2 ^ (attempt - 1)) max.nanos :=
  nanos_shorter_ofNanos max _

theorem nanos_delay : ((exponential initial max).delay attempt).nanos =
    min (initial.nanos * 2 ^ min (attempt - 1) doublingLimit) max.nanos := by
  rw [delay, Duration.times, nanos_shorter_ofNanos, Nat.one_shiftLeft]

/-- Up to the attempt that follows the last doubling the formula is kept. -/
theorem nanos_delay_of_le (h : attempt - 1 ≤ doublingLimit) :
    ((exponential initial max).delay attempt).nanos = (doubled initial max attempt).nanos := by
  rw [nanos_delay, nanos_doubled, Nat.min_eq_left h]

/-- After the last doubling the wait by the formula has doubled at least once more. -/
theorem nanos_doubled_of_lt (h : doublingLimit < attempt - 1) :
    min (initial.nanos * 2 ^ doublingLimit * 2) max.nanos ≤
      (doubled initial max attempt).nanos := by
  have hproduct : initial.nanos * 2 ^ doublingLimit * 2 ≤ initial.nanos * 2 ^ (attempt - 1) :=
    calc initial.nanos * 2 ^ doublingLimit * 2
        = initial.nanos * 2 ^ (doublingLimit + 1) := by rw [Nat.pow_succ, Nat.mul_assoc]
      _ ≤ initial.nanos * 2 ^ (attempt - 1) :=
        Nat.mul_le_mul_left _ (Nat.pow_le_pow_right (by decide) h)
  rw [nanos_doubled]
  omega

/-- **Where the formula ends.**  For all waits and attempts, the wait that is kept is the one of
the formula exactly if the attempt is at most the thirty-second, or the wait starts at nothing,
or thirty-one doublings reach the largest wait. In every other case it is what thirty-one
doublings make of the first one, and that is shorter than the formula says. -/
theorem delay_eq_doubled_iff :
    ((exponential initial max).delay attempt = doubled initial max attempt ↔
      attempt ≤ 32 ∨ initial.nanos = 0 ∨ max.nanos ≤ initial.nanos * 2 ^ 31) ∧
    (¬ (attempt ≤ 32 ∨ initial.nanos = 0 ∨ max.nanos ≤ initial.nanos * 2 ^ 31) →
      ((exponential initial max).delay attempt).nanos = initial.nanos * 2 ^ 31 ∧
      ((exponential initial max).delay attempt).nanos < (doubled initial max attempt).nanos) := by
  have hlimit : doublingLimit = 31 := rfl
  by_cases hfew : attempt ≤ 32
  · have hkept : (exponential initial max).delay attempt = doubled initial max attempt :=
      Duration.ext (nanos_delay_of_le initial max attempt (by omega))
    exact ⟨iff_of_true hkept (.inl hfew), fun h => absurd (.inl hfew) h⟩
  have hmany : doublingLimit < attempt - 1 := by omega
  have hdelay : ((exponential initial max).delay attempt).nanos =
      min (initial.nanos * 2 ^ 31) max.nanos := by
    rw [nanos_delay, Nat.min_eq_right (Nat.le_of_lt hmany), hlimit]
  have hlonger : min (initial.nanos * 2 ^ 31 * 2) max.nanos ≤
      (doubled initial max attempt).nanos :=
    nanos_doubled_of_lt initial max attempt hmany
  by_cases hreached : initial.nanos = 0 ∨ max.nanos ≤ initial.nanos * 2 ^ 31
  · -- both waits are no wait at all, or both are the largest one
    have hat_most : (doubled initial max attempt).nanos ≤ max.nanos := by
      rw [nanos_doubled]
      exact Nat.min_le_right _ _
    have hkept : (exponential initial max).delay attempt = doubled initial max attempt := by
      refine Duration.ext ?_
      rcases hreached with hzero | hlarge
      · rw [hdelay, nanos_doubled, hzero, Nat.zero_mul, Nat.zero_mul]
      · omega
    exact ⟨iff_of_true hkept (.inr hreached), fun h => absurd (.inr hreached) h⟩
  · have hcut : ((exponential initial max).delay attempt).nanos = initial.nanos * 2 ^ 31 := by
      omega
    have hshorter : ((exponential initial max).delay attempt).nanos <
        (doubled initial max attempt).nanos := by
      omega
    have hdiffers : (exponential initial max).delay attempt ≠ doubled initial max attempt :=
      fun h => absurd (congrArg Duration.nanos h) (Nat.ne_of_lt hshorter)
    exact ⟨iff_of_false hdiffers fun h => h.elim hfew hreached, fun _ => ⟨hcut, hshorter⟩⟩

/-- A wait that starts at a nanosecond stays at two seconds and a bit before the thirty-third
attempt, when it should be four and a bit, though it may grow to ten. -/
theorem small_wait_grows_no_more :
    let initial := Duration.ofNanos 1
    let max := Duration.ofSeconds 10
    (exponential initial max).delay 33 ≠ doubled initial max 33 ∧
      ((exponential initial max).delay 33).nanos = 2147483648 ∧
      (doubled initial max 33).nanos = 4294967296 := by
  intro initial max
  obtain ⟨hkept, hcut⟩ := delay_eq_doubled_iff initial max 33
  have hinitial : initial.nanos = 1 := Duration.nanos_ofNanos (by decide)
  have hmax : max.nanos = 10 * Duration.nanosPerSecond := Duration.nanos_ofNanos (by decide)
  have hsmall : ¬ (33 ≤ 32 ∨ initial.nanos = 0 ∨ max.nanos ≤ initial.nanos * 2 ^ 31) := by
    rw [hinitial, hmax]
    decide
  refine ⟨fun h => hsmall (hkept.1 h), ?_, ?_⟩
  · rw [(hcut hsmall).1, hinitial]
    decide
  · rw [nanos_doubled, hinitial, hmax]
    decide

end Appliance.Backoff
