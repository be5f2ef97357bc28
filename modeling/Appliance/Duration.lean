/-!
# Durations

A duration is a number of nanoseconds up to a largest one, at which sums and
products stop. Two texts show a duration: a short decimal one in the largest
fitting unit, and one in hours, minutes and seconds.

* `Duration`        : bounded nanoseconds
* `Duration.times`  : a multiple, at most the largest duration
* `Duration.text`   : `30s`, `1.5s`, `1ms`, `0ns`
* `clockText`       : `1h 02m 03s`, `1m 01s`, `5s`
-/

namespace Appliance

/-- The nanoseconds of a second. -/
abbrev Duration.nanosPerSecond : Nat := 1000000000

/-- The nanoseconds of a millisecond. -/
abbrev Duration.nanosPerMilli : Nat := 1000000

/-- The nanoseconds of a microsecond. -/
abbrev Duration.nanosPerMicro : Nat := 1000

/-- The nanoseconds of the largest duration: all seconds of 64 bits and the
nanoseconds of one more, but one. -/
def Duration.limit : Nat := 0x10000000000000000 * Duration.nanosPerSecond - 1

/-- A bounded span of time. -/
structure Duration where
  nanos : Nat
  le_limit : nanos ≤ Duration.limit := by decide
deriving DecidableEq

namespace Duration

/-- The duration of some nanoseconds, or the largest one. -/
def ofNanos (n : Nat) : Duration := ⟨min n limit, Nat.min_le_right n limit⟩

/-- The duration of some seconds. -/
def ofSeconds (n : Nat) : Duration := ofNanos (n * nanosPerSecond)

/-- The duration of some milliseconds. -/
def ofMillis (n : Nat) : Duration := ofNanos (n * nanosPerMilli)

/-- No time. -/
def zero : Duration := ⟨0, Nat.zero_le _⟩

/-- The whole milliseconds. -/
def millis (d : Duration) : Nat := d.nanos / nanosPerMilli

/-- The whole seconds. -/
def seconds (d : Duration) : Nat := d.nanos / nanosPerSecond

/-- The least number of milliseconds that is no shorter. -/
def millisUp (d : Duration) : Nat := (d.nanos + (nanosPerMilli - 1)) / nanosPerMilli

/-- A multiple, at most the largest duration. -/
def times (d : Duration) (k : Nat) : Duration := ofNanos (d.nanos * k)

/-- The shorter of two durations. -/
def shorter (a b : Duration) : Duration := if a.nanos ≤ b.nanos then a else b

@[ext] theorem ext {a b : Duration} (h : a.nanos = b.nanos) : a = b := by
  cases a
  cases b
  cases h
  rfl

theorem nanos_ofNanos {n : Nat} (h : n ≤ limit) : (ofNanos n).nanos = n := Nat.min_eq_left h

theorem nanos_shorter (a b : Duration) : (shorter a b).nanos = min a.nanos b.nanos := by
  simp only [shorter]
  split <;> omega

theorem nanos_times_mono (d : Duration) {k k' : Nat} (h : k ≤ k') :
    (d.times k).nanos ≤ (d.times k').nanos := by
  have hproduct : d.nanos * k ≤ d.nanos * k' := Nat.mul_le_mul_left _ h
  simp only [times, ofNanos]
  omega

/-! ## Texts -/

/-- A number with `places` digits after the point, of which trailing zeros are left out. -/
def decimalText (whole fraction places : Nat) : String :=
  let digits := (toString fraction).toList
  let padded := List.replicate (places - digits.length) '0' ++ digits
  let kept := (padded.reverse.dropWhile (· == '0')).reverse
  if kept.isEmpty then toString whole
  else toString whole ++ "." ++ String.ofList kept

/-- The text in the largest unit of which there is at least one. -/
def text (d : Duration) : String :=
  if nanosPerSecond ≤ d.nanos then decimalText (d.nanos / nanosPerSecond) (d.nanos % nanosPerSecond) 9 ++ "s"
  else if nanosPerMilli ≤ d.nanos then decimalText (d.nanos / nanosPerMilli) (d.nanos % nanosPerMilli) 6 ++ "ms"
  else if nanosPerMicro ≤ d.nanos then decimalText (d.nanos / nanosPerMicro) (d.nanos % nanosPerMicro) 3 ++ "µs"
  else toString d.nanos ++ "ns"

end Duration

/-- A number with at least two digits. -/
def twoDigits (n : Nat) : String := if n < 10 then "0" ++ toString n else toString n

/-- Whole seconds as hours, minutes and seconds, from the first unit that counts. -/
def clockText (seconds : Nat) : String :=
  let h := seconds / 3600
  let m := seconds / 60 % 60
  let s := seconds % 60
  if 0 < h then toString h ++ "h " ++ twoDigits m ++ "m " ++ twoDigits s ++ "s"
  else if 0 < m then toString m ++ "m " ++ twoDigits s ++ "s"
  else toString s ++ "s"

end Appliance
