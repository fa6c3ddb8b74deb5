import StreamConsumer.Time.Difference

/-!
# Differences in words of 64 bits

The time between two instants, with a check of every number on the way to it against the word that holds it.  Days,
seconds and nanoseconds are signed words.  A difference of dates or times is at most as long as the milliseconds that a
signed word counts, and a duration has its seconds in an unsigned word.
-/

namespace StreamConsumer

/-- The number, if a signed word holds it. -/
def signedWord? (n : Int) : Option Int :=
  if -9223372036854775808 ≤ n ∧ n ≤ 9223372036854775807 then some n else none

theorem signedWord?_bind {α : Type} {n : Int} {f : Int → Option α}
    (h : -9223372036854775808 ≤ n ∧ n ≤ 9223372036854775807) : (signedWord? n >>= f) = f n := by
  rw [signedWord?, if_pos h]
  rfl

namespace Difference

/-- The difference with these parts, if it is in normal form and not too long. -/
def ofParts? (secs : Int) (nanos : Nat) : Option Difference :=
  if h : nanos < nanosPerSecond ∧ -9223372036854775807000000 ≤ nanosPerSecond * secs + nanos ∧
      nanosPerSecond * secs + nanos ≤ 9223372036854775807000000 then
    some { secs, nanos, nanos_lt := h.1 }
  else none

theorem ofParts?_eq_some {secs : Int} {nanos : Nat} (hn : nanos < nanosPerSecond)
    (h : -9000000000000000 ≤ secs ∧ secs ≤ 9000000000000000) :
    ofParts? secs nanos = some { secs, nanos, nanos_lt := hn } := by
  rw [ofParts?, dif_pos]
  unfold nanosPerSecond at *
  omega

/-- The sum, with a second carried over from the nanoseconds. -/
def add? (d e : Difference) : Option Difference := do
  let secs ← signedWord? (d.secs + e.secs)
  if d.nanos + e.nanos < nanosPerSecond then ofParts? secs (d.nanos + e.nanos)
  else
    let carried ← signedWord? (secs + 1)
    ofParts? carried (d.nanos + e.nanos - nanosPerSecond)

/-- The difference as a duration, if an unsigned word holds its seconds; zero if it is negative. -/
def clamp? (d : Difference) : Option Duration :=
  if d.secs < 0 then some .zero
  else if d.secs ≤ 18446744073709551615 then
    some { secs := UInt64.ofNat d.secs.toNat, nanos := d.nanos, nanos_lt := d.nanos_lt }
  else none

end Difference

namespace Instant

/-- The days from `a` to `b`, as a difference. -/
def datesTo? (a b : Instant) : Option Difference := do
  let days ← signedWord? (b.day - a.day)
  let secs ← signedWord? (secondsPerDay * days)
  Difference.ofParts? secs 0

/-- The difference of the times of day, with what leap seconds carry. -/
def clockTo? (a b : Instant) : Option Difference := do
  let clock ← signedWord? (b.secondOfDay - a.secondOfDay)
  let carried ← signedWord? (clock + a.leapCarry b)
  let fraction ← signedWord? (b.nanos - a.nanos)
  let secs ← signedWord? (carried + fraction / nanosPerSecond)
  Difference.ofParts? secs (fraction % nanosPerSecond).toNat

/-- The time from `a` to `b`, if every number on the way to it fits into its word. -/
def timeTo? (a b : Instant) : Option Difference := do
  let dates ← a.datesTo? b
  let clock ← a.clockTo? b
  dates.add? clock

def delayTo? (a b : Instant) : Option Duration := do
  let time ← a.timeTo? b
  time.clamp?

end Instant

end StreamConsumer
