import ReplyStage.Binary64
import ReplyStage.Duration.Basic
/-!
# Durations as binary numbers

A histogram keeps spans as numbers of seconds with a binary point. Whole seconds and the rest are
rounded on their own and added with one more rounding, so a long span is not exact. What is shown
of such a number are its nanoseconds, to the nearest.
-/

namespace ReplyStage.Duration

/-- The sum of two numbers that are not negative, rounded. -/
def addSeconds? (x y : Binary64) : Option Binary64 :=
  let (a, b) := x.ratio
  let (c, d) := y.ratio
  Binary64.ofRatio? false (a * d + c * b) (b * d)

/-- A span as a number of seconds. -/
def seconds? (d : Duration) : Option Binary64 := do
  let whole ← Binary64.ofNat? (d.nanos / 1000000000)
  let rest ← Binary64.ofRatio? false (d.nanos % 1000000000) 1000000000
  addSeconds? whole rest

/-- The nanoseconds of a number of seconds, to the nearest, a half upwards. -/
def shownNanos? (seconds : Binary64) : Option Nat := do
  let nanos ← seconds.mul? (← Binary64.ofNat? 1000000000)
  let (num, den) := nanos.ratio
  return (2 * num + den) / (2 * den)

/-- The nanoseconds that a histogram shows for a span. -/
def histogramNanos (d : Duration) : Nat := (d.seconds?.bind shownNanos?).getD 0

end ReplyStage.Duration
