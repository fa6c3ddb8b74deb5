import StreamConsumer.Time.Instant

/-!
# Differences of instants

The time from one instant to another is counted in days of 86400 seconds, seconds of the day and nanoseconds.  An instant
inside a leap second stands one second further on than its count of seconds says: a later second of the day gains the
leap second of the earlier one, and an earlier second of the day loses its own.  Only seconds of the day are compared for
this, also between different days.
-/

namespace StreamConsumer

/-- A signed length of time: whole seconds, rounded down, and the nanoseconds on top of them. -/
structure Difference where
  secs : Int
  nanos : Nat
  nanos_lt : nanos < nanosPerSecond := by decide

namespace Difference

/-- The exact signed length in nanoseconds. -/
def totalNanos (d : Difference) : Int := nanosPerSecond * d.secs + d.nanos

/-- The length as a duration, if it is not negative. -/
def toDuration? (d : Difference) : Option Duration :=
  if d.secs < 0 then none
  else some { secs := UInt64.ofNat d.secs.toNat, nanos := d.nanos, nanos_lt := d.nanos_lt }

end Difference

namespace Instant

/-- The whole seconds that leap seconds add to the time of day from `a` to `b`. -/
def leapCarry (a b : Instant) : Int :=
  if a.secondOfDay < b.secondOfDay then if a.isLeap then 1 else 0
  else if b.secondOfDay < a.secondOfDay then if b.isLeap then -1 else 0
  else 0

/-- The time from `a` to `b`. -/
def timeTo (a b : Instant) : Difference :=
  let fraction : Int := (b.nanos : Int) - a.nanos
  { secs := secondsPerDay * (b.day - a.day) + (b.secondOfDay - a.secondOfDay) + a.leapCarry b
      + fraction / nanosPerSecond
    nanos := (fraction % nanosPerSecond).toNat
    nanos_lt := by
      have h : fraction % nanosPerSecond < nanosPerSecond := Int.emod_lt_of_pos _ (by decide)
      have h' : 0 ≤ fraction % nanosPerSecond := Int.emod_nonneg _ (by decide)
      omega }

theorem totalNanos_timeTo (a b : Instant) :
    (a.timeTo b).totalNanos =
      nanosPerSecond * (b.secs - a.secs + a.leapCarry b) + ((b.nanos : Int) - a.nanos) := by
  have hb := b.secs_eq
  have ha := a.secs_eq
  simp only [Difference.totalNanos, timeTo, secondsPerDay, nanosPerSecond] at *
  omega

/-- The time from `a` to `b`, and zero where that would be negative. -/
def delayTo (a b : Instant) : Duration := (a.timeTo b).toDuration?.getD Duration.zero

end Instant

end StreamConsumer
