import StreamConsumer.Time.Duration

/-!
# Instants of universal time

An instant is a count of seconds since 1970-01-01T00:00:00Z, leap seconds not counted, and a part of a second in
nanoseconds.  A leap second keeps the count of the second that it follows, and its nanoseconds run from one full second
on.  It may follow any second, though by the calendar only the last one of a minute is ever followed by one.  Instants
are ordered by count, then by nanoseconds, so a leap second lies between the seconds beside it.
-/

namespace StreamConsumer

/-- The seconds in one day, leap seconds not counted. -/
def secondsPerDay : Int := 86400

/-- An instant between the start of the year -262143 and the end of the year 262142. -/
structure Instant where
  secs : Int
  nanos : Nat
  first_le : -8334601228800 ≤ secs := by decide
  le_last : secs ≤ 8210266876799 := by decide
  nanos_lt : nanos < 2 * nanosPerSecond := by decide
  deriving DecidableEq

namespace Instant

/-- The instant with these parts, if they are in range. -/
def ofParts? (secs : Int) (nanos : Nat) : Option Instant :=
  if h : (-8334601228800 ≤ secs ∧ secs ≤ 8210266876799) ∧ nanos < 2 * nanosPerSecond then
    some { secs, nanos, first_le := h.1.1, le_last := h.1.2, nanos_lt := h.2 }
  else none

theorem eq_iff (t t' : Instant) : t = t' ↔ t.secs = t'.secs ∧ t.nanos = t'.nanos := by
  cases t
  cases t'
  simp

/-- The instant 1970-01-01T00:00:00Z. -/
def epoch : Instant := { secs := 0, nanos := 0 }

/-- The instant lies inside a leap second. -/
def isLeap (t : Instant) : Bool := decide (nanosPerSecond ≤ t.nanos)

/-- The days from 1970-01-01 to the day of the instant. -/
def day (t : Instant) : Int := t.secs / secondsPerDay

/-- The second of its day, 0 to 86399; a leap second has the number of the second before it. -/
def secondOfDay (t : Instant) : Int := t.secs % secondsPerDay

theorem secs_eq (t : Instant) : t.secs = secondsPerDay * t.day + t.secondOfDay := by
  simp only [day, secondOfDay, secondsPerDay]
  omega

theorem secondOfDay_nonneg (t : Instant) : 0 ≤ t.secondOfDay := Int.emod_nonneg _ (by decide)

theorem secondOfDay_lt (t : Instant) : t.secondOfDay < secondsPerDay := Int.emod_lt_of_pos _ (by decide)

/-! ### Order -/

instance : LT Instant where
  lt a b := a.secs < b.secs ∨ a.secs = b.secs ∧ a.nanos < b.nanos

instance : LE Instant where
  le a b := a.secs < b.secs ∨ a.secs = b.secs ∧ a.nanos ≤ b.nanos

instance (a b : Instant) : Decidable (a < b) :=
  inferInstanceAs (Decidable (a.secs < b.secs ∨ a.secs = b.secs ∧ a.nanos < b.nanos))

instance (a b : Instant) : Decidable (a ≤ b) :=
  inferInstanceAs (Decidable (a.secs < b.secs ∨ a.secs = b.secs ∧ a.nanos ≤ b.nanos))

theorem le_def (a b : Instant) : a ≤ b ↔ a.secs < b.secs ∨ a.secs = b.secs ∧ a.nanos ≤ b.nanos := Iff.rfl

theorem lt_def (a b : Instant) : a < b ↔ a.secs < b.secs ∨ a.secs = b.secs ∧ a.nanos < b.nanos := Iff.rfl

instance : Std.IsPreorder Instant where
  le_refl a := Or.inr ⟨rfl, Nat.le_refl _⟩
  le_trans a b c hab hbc := by
    rw [le_def] at *
    omega

end Instant

end StreamConsumer
