/-!
# Durations

A duration is a count of whole seconds, held in 64 bits, and a part of a second in nanoseconds.  Durations are
compared part by part, seconds first; `Duration.le_iff_totalNanos_le` and `Duration.lt_iff_totalNanos_lt` say that this
is the order of their exact lengths in nanoseconds.
-/

namespace StreamConsumer

/-- The nanoseconds in one second. -/
def nanosPerSecond : Nat := 1000000000

/-- A length of time; the nanoseconds never make a whole second. -/
structure Duration where
  secs : UInt64
  nanos : Nat
  nanos_lt : nanos < nanosPerSecond := by decide
  deriving DecidableEq

namespace Duration

/-- The exact length in nanoseconds. -/
def totalNanos (d : Duration) : Nat := nanosPerSecond * d.secs.toNat + d.nanos

/-! ### Making durations -/

def zero : Duration := { secs := 0, nanos := 0 }

def ofSecs (secs : UInt64) : Duration := { secs, nanos := 0 }

def ofMillis (millis : UInt64) : Duration where
  secs := millis / 1000
  nanos := 1000000 * (millis.toNat % 1000)
  nanos_lt := by unfold nanosPerSecond; omega

def ofNanos (nanos : UInt64) : Duration where
  secs := nanos / 1000000000
  nanos := nanos.toNat % nanosPerSecond
  nanos_lt := Nat.mod_lt _ (by decide)

/-- The duration with these parts, if the nanoseconds do not make a second. -/
def ofParts? (secs : UInt64) (nanos : Nat) : Option Duration :=
  if h : nanos < nanosPerSecond then some { secs, nanos, nanos_lt := h } else none

/-! ### Order and difference -/

instance : LT Duration where
  lt a b := a.secs < b.secs ∨ a.secs = b.secs ∧ a.nanos < b.nanos

instance : LE Duration where
  le a b := a.secs < b.secs ∨ a.secs = b.secs ∧ a.nanos ≤ b.nanos

instance (a b : Duration) : Decidable (a < b) :=
  inferInstanceAs (Decidable (a.secs < b.secs ∨ a.secs = b.secs ∧ a.nanos < b.nanos))

instance (a b : Duration) : Decidable (a ≤ b) :=
  inferInstanceAs (Decidable (a.secs < b.secs ∨ a.secs = b.secs ∧ a.nanos ≤ b.nanos))

theorem lt_iff_totalNanos_lt (a b : Duration) : a < b ↔ a.totalNanos < b.totalNanos := by
  have ha := a.nanos_lt
  have hb := b.nanos_lt
  show (a.secs < b.secs ∨ a.secs = b.secs ∧ a.nanos < b.nanos) ↔ _
  simp only [totalNanos, nanosPerSecond, UInt64.lt_iff_toNat_lt, ← UInt64.toNat_inj] at *
  omega

theorem le_iff_totalNanos_le (a b : Duration) : a ≤ b ↔ a.totalNanos ≤ b.totalNanos := by
  have ha := a.nanos_lt
  have hb := b.nanos_lt
  show (a.secs < b.secs ∨ a.secs = b.secs ∧ a.nanos ≤ b.nanos) ↔ _
  simp only [totalNanos, nanosPerSecond, UInt64.lt_iff_toNat_lt, ← UInt64.toNat_inj] at *
  omega

instance : Std.IsPreorder Duration where
  le_refl a := (a.le_iff_totalNanos_le a).2 (Nat.le_refl _)
  le_trans a b c hab hbc := by
    rw [le_iff_totalNanos_le] at *
    exact Nat.le_trans hab hbc

theorem eq_of_totalNanos_eq {a b : Duration} (h : a.totalNanos = b.totalNanos) : a = b := by
  have ha := a.nanos_lt
  have hb := b.nanos_lt
  obtain ⟨s, n, hn⟩ := a
  obtain ⟨s', n', hn'⟩ := b
  simp only [totalNanos, nanosPerSecond] at *
  have hs : s = s' := UInt64.toNat_inj.1 (by omega)
  subst hs
  have : n = n' := by omega
  subst this
  rfl

/-- The length is exactly zero. -/
def isZero (d : Duration) : Bool := d.secs == 0 && d.nanos == 0

theorem isZero_iff (d : Duration) : d.isZero ↔ d.totalNanos = 0 := by
  have : d.secs = 0 ↔ d.secs.toNat = 0 := by rw [← UInt64.toNat_inj]; simp
  simp only [isZero, Bool.and_eq_true, beq_iff_eq, totalNanos, nanosPerSecond, this]
  omega

theorem totalNanos_ofMillis (millis : UInt64) : (ofMillis millis).totalNanos = 1000000 * millis.toNat := by
  simp only [totalNanos, ofMillis, nanosPerSecond, UInt64.toNat_div]
  show 1000000000 * (millis.toNat / 1000) + _ = _
  omega

theorem totalNanos_ofNanos (nanos : UInt64) : (ofNanos nanos).totalNanos = nanos.toNat := by
  simp only [totalNanos, ofNanos, nanosPerSecond, UInt64.toNat_div]
  show 1000000000 * (nanos.toNat / 1000000000) + _ = _
  omega

/-- How much longer `a` is than `b`; zero if it is not longer. -/
def excess (a b : Duration) : Duration :=
  if a ≤ b then zero
  else if h : b.nanos ≤ a.nanos then
    { secs := a.secs - b.secs, nanos := a.nanos - b.nanos, nanos_lt := by have := a.nanos_lt; omega }
  else
    { secs := a.secs - b.secs - 1, nanos := nanosPerSecond + a.nanos - b.nanos, nanos_lt := by have := b.nanos_lt; omega }

theorem totalNanos_excess (a b : Duration) : (a.excess b).totalNanos = a.totalNanos - b.totalNanos := by
  have ha := a.nanos_lt
  have hb := b.nanos_lt
  rw [excess]
  by_cases hle : a ≤ b
  · have hzero : zero.totalNanos = 0 := rfl
    rw [if_pos hle, hzero]
    rw [le_iff_totalNanos_le] at hle
    omega
  · rw [if_neg hle]
    rw [le_iff_totalNanos_le] at hle
    simp only [totalNanos, nanosPerSecond] at *
    have hsecs : b.secs ≤ a.secs := UInt64.le_iff_toNat_le.2 (by omega)
    have hsub : (a.secs - b.secs).toNat = a.secs.toNat - b.secs.toNat := UInt64.toNat_sub_of_le _ _ hsecs
    by_cases hnanos : b.nanos ≤ a.nanos
    · simp only [dif_pos hnanos]
      omega
    · -- the second that is borrowed for the nanoseconds is there
      have hone : (1 : UInt64) ≤ a.secs - b.secs := UInt64.le_iff_toNat_le.2 (by rw [hsub, UInt64.toNat_one]; omega)
      simp only [dif_neg hnanos, UInt64.toNat_sub_of_le _ _ hone, UInt64.toNat_one]
      omega

/-! ### Seconds -/

/-- The length in seconds as a double: whole seconds and nanoseconds are converted apart and then added. -/
def seconds (d : Duration) : Float := d.secs.toFloat + d.nanos.toFloat / 1e9

end Duration

end StreamConsumer
