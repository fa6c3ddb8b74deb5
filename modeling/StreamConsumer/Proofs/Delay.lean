import StreamConsumer.Sink.Stats
import StreamConsumer.Time.Checked

/-!
# Delays

For an event a metrics sink records the time from its insertion to its retrieval, and zero where that time is negative.
With instants counted in nanoseconds from 1970 on (`Instant.totalNanos`), the signed time is the difference of the counts
and what leap seconds carry (`Instant.totalNanos_timeTo_eq_sub_add`).  The carry has three cases, which say all that the
proofs about delays need of it (`Instant.leapCarry_cases`).

The same time is computed once more with a check of every intermediate number against the word that holds it
(`Instant.timeTo?`, `Instant.delayTo?`).  No check ever fails, so the delay between instants that are not in a leap second
is exact over the whole range of instants (`delay_exact`).
-/

namespace StreamConsumer

namespace Instant

variable (a b : Instant)

/-- The nanoseconds from 1970-01-01T00:00:00Z on, leap seconds not counted. -/
def totalNanos (t : Instant) : Int := nanosPerSecond * t.secs + t.nanos

theorem isLeap_iff (t : Instant) : t.isLeap = true ↔ 1000000000 ≤ t.nanos := decide_eq_true_iff

/-- The numbers that make up an instant, with their ranges. -/
theorem parts (t : Instant) :
    t.secs = 86400 * t.day + t.secondOfDay ∧ (0 ≤ t.secondOfDay ∧ t.secondOfDay < 86400) ∧
      (-8334601228800 ≤ t.secs ∧ t.secs ≤ 8210266876799) ∧ t.nanos < 2000000000 :=
  ⟨t.secs_eq, ⟨t.secondOfDay_nonneg, t.secondOfDay_lt⟩, ⟨t.first_le, t.le_last⟩, t.nanos_lt⟩

/-! ### What leap seconds carry -/

/-- The carry is one where a later second of the day is reached from within a leap second, minus one where an earlier
second of the day is reached within one, and zero otherwise. -/
theorem leapCarry_cases :
    (a.leapCarry b = 1 ∧ a.secondOfDay < b.secondOfDay ∧ 1000000000 ≤ a.nanos) ∨
      (a.leapCarry b = -1 ∧ b.secondOfDay < a.secondOfDay ∧ 1000000000 ≤ b.nanos) ∨
      (a.leapCarry b = 0 ∧ (a.secondOfDay < b.secondOfDay → a.nanos < 1000000000) ∧
        (b.secondOfDay < a.secondOfDay → b.nanos < 1000000000)) := by
  simp only [leapCarry, isLeap_iff]
  split
  · split <;> omega
  · split
    · split <;> omega
    · omega

theorem leapCarry_swap : b.leapCarry a = -a.leapCarry b := by
  have hab := a.leapCarry_cases b
  have hba := b.leapCarry_cases a
  omega

/-- The signed time is the difference of the counts, with a second for each leap second that is carried. -/
theorem totalNanos_timeTo_eq_sub_add :
    (a.timeTo b).totalNanos = b.totalNanos - a.totalNanos + 1000000000 * a.leapCarry b := by
  rw [totalNanos_timeTo]
  simp only [totalNanos, nanosPerSecond]
  omega

theorem totalNanos_timeTo_of_not_leap (ha : a.isLeap = false) (hb : b.isLeap = false) :
    (a.timeTo b).totalNanos = b.totalNanos - a.totalNanos := by
  have hcarry : a.leapCarry b = 0 := by simp [leapCarry, ha, hb]
  rw [totalNanos_timeTo_eq_sub_add, hcarry]
  omega

/-! ### Delays -/

/-- The seconds of a time between two instants are far within a word. -/
theorem secs_timeTo_bounds :
    -20000000000000 < (a.timeTo b).secs ∧ (a.timeTo b).secs < 20000000000000 := by
  have ha := a.parts
  have hb := b.parts
  have hc := a.leapCarry_cases b
  have hnanos := (a.timeTo b).nanos_lt
  have htotal := a.totalNanos_timeTo b
  simp only [Difference.totalNanos, nanosPerSecond] at hnanos htotal
  omega

/-- The delay is the signed time, with zero in the place of what is negative. -/
theorem totalNanos_delayTo : (a.delayTo b).totalNanos = (a.timeTo b).totalNanos.toNat := by
  have hbounds := a.secs_timeTo_bounds b
  have hnanos := (a.timeTo b).nanos_lt
  unfold delayTo Difference.toDuration? Difference.totalNanos
  simp only [nanosPerSecond] at *
  split
  · show 0 = _
    omega
  · -- no seconds are lost in the unsigned word
    have hsecs : (UInt64.ofNat (a.timeTo b).secs.toNat).toNat = (a.timeTo b).secs.toNat := by
      rw [UInt64.toNat_ofNat']
      omega
    simp only [Option.getD_some, Duration.totalNanos, nanosPerSecond, hsecs]
    omega

theorem delayTo_eq_zero_iff : a.delayTo b = .zero ↔ (a.timeTo b).totalNanos ≤ 0 := by
  have htotal := a.totalNanos_delayTo b
  constructor
  · intro h
    rw [h] at htotal
    have hzero : Duration.zero.totalNanos = 0 := rfl
    omega
  · intro h
    apply Duration.eq_of_totalNanos_eq
    show _ = 0
    omega

end Instant

/-! ### In words of 64 bits -/

namespace Difference

theorem totalNanos_eq (d : Difference) : d.totalNanos = 1000000000 * d.secs + d.nanos := rfl

theorem eq_of_totalNanos_eq {d e : Difference} (h : d.totalNanos = e.totalNanos) : d = e := by
  have hd := d.nanos_lt
  have he := e.nanos_lt
  obtain ⟨s, n, hn⟩ := d
  obtain ⟨s', n', hn'⟩ := e
  simp only [totalNanos, nanosPerSecond] at *
  have hs : s = s' := by omega
  have hnanos : n = n' := by omega
  subst hs hnanos
  rfl

/-- Within wide bounds the sum is exact. -/
theorem add?_eq_some {d e sum : Difference} (hd : -4000000000000000 ≤ d.secs ∧ d.secs ≤ 4000000000000000)
    (he : -4000000000000000 ≤ e.secs ∧ e.secs ≤ 4000000000000000)
    (hsum : sum.totalNanos = d.totalNanos + e.totalNanos) : d.add? e = some sum := by
  have hunit : nanosPerSecond = 1000000000 := rfl
  have hdn := d.nanos_lt
  have hen := e.nanos_lt
  rw [add?, signedWord?_bind (by omega)]
  by_cases hlt : d.nanos + e.nanos < nanosPerSecond
  · rw [if_pos hlt, ofParts?_eq_some hlt (by omega)]
    refine congrArg some (eq_of_totalNanos_eq ?_)
    simp only [totalNanos_eq] at *
    omega
  · rw [if_neg hlt, signedWord?_bind (by omega), ofParts?_eq_some (by omega) (by omega)]
    refine congrArg some (eq_of_totalNanos_eq ?_)
    simp only [totalNanos_eq] at *
    omega

end Difference

namespace Instant

variable (a b : Instant)

private theorem fraction_bounds :
    -2 ≤ ((b.nanos : Int) - a.nanos) / nanosPerSecond ∧ ((b.nanos : Int) - a.nanos) / nanosPerSecond ≤ 2 := by
  have ha := a.parts
  have hb := b.parts
  unfold nanosPerSecond
  omega

theorem datesTo?_eq_some : a.datesTo? b = some { secs := 86400 * (b.day - a.day), nanos := 0 } := by
  have ha := a.parts
  have hb := b.parts
  have hunit : secondsPerDay = 86400 := rfl
  rw [datesTo?, hunit, signedWord?_bind (by omega), signedWord?_bind (by omega)]
  exact Difference.ofParts?_eq_some (by decide) (by omega)

theorem clockTo?_eq_some :
    a.clockTo? b = some
      { secs := b.secondOfDay - a.secondOfDay + a.leapCarry b + ((b.nanos : Int) - a.nanos) / nanosPerSecond
        nanos := (a.timeTo b).nanos
        nanos_lt := (a.timeTo b).nanos_lt } := by
  have ha := a.parts
  have hb := b.parts
  have hc := a.leapCarry_cases b
  have hfraction := fraction_bounds a b
  rw [clockTo?, signedWord?_bind (by omega), signedWord?_bind (by omega), signedWord?_bind (by omega),
    signedWord?_bind (by omega)]
  exact Difference.ofParts?_eq_some _ (by omega)

theorem timeTo?_eq_some : a.timeTo? b = some (a.timeTo b) := by
  have ha := a.parts
  have hb := b.parts
  have hc := a.leapCarry_cases b
  have hfraction := fraction_bounds a b
  rw [timeTo?, datesTo?_eq_some, clockTo?_eq_some]
  refine Difference.add?_eq_some ?_ ?_ ?_
  · show _ ≤ 86400 * (b.day - a.day) ∧ 86400 * (b.day - a.day) ≤ _
    omega
  · show _ ≤ b.secondOfDay - a.secondOfDay + a.leapCarry b + _ ∧
      b.secondOfDay - a.secondOfDay + a.leapCarry b + _ ≤ _
    omega
  · -- both sides hold the same fraction of a second
    simp only [Difference.totalNanos_eq, timeTo, secondsPerDay]
    omega

theorem delayTo?_eq_some : a.delayTo? b = some (a.delayTo b) := by
  have hbounds := a.secs_timeTo_bounds b
  rw [delayTo?, timeTo?_eq_some, delayTo, Difference.toDuration?]
  show Difference.clamp? _ = _
  unfold Difference.clamp?
  split
  · rfl
  · rw [if_pos (by omega)]
    rfl

end Instant

/-- For an event whose instants are not in a leap second a metrics sink sends out one observation, of exactly the
nanoseconds from the insertion to the retrieval, or of none if the retrieval came first.  The delay is a well-formed
duration, and neither the signed time nor the delay leaves its words at any step of its computation. -/
theorem delay_exact {inserted retrieved : Instant} (hi : inserted.isLeap = false) (hr : retrieved.isLeap = false) :
    StatsKind.metrics.emissions (.eventToClient inserted retrieved) =
        [.observe "shardline_event_delivery_seconds" []
          ((inserted.delayTo retrieved).secs.toFloat + (inserted.delayTo retrieved).nanos.toFloat / 1e9)] ∧
      (inserted.delayTo retrieved).totalNanos = max 0 (retrieved.totalNanos - inserted.totalNanos) ∧
      (inserted.delayTo retrieved).nanos < 1000000000 ∧ (inserted.delayTo retrieved).secs.toNat < 18446744073709551616 ∧
      inserted.timeTo? retrieved = some (inserted.timeTo retrieved) ∧
      inserted.delayTo? retrieved = some (inserted.delayTo retrieved) := by
  have htime := inserted.totalNanos_timeTo_of_not_leap retrieved hi hr
  have hdelay := inserted.totalNanos_delayTo retrieved
  refine ⟨rfl, ?_, (inserted.delayTo retrieved).nanos_lt, (inserted.delayTo retrieved).secs.toNat_lt,
    inserted.timeTo?_eq_some retrieved, inserted.delayTo?_eq_some retrieved⟩
  omega

/-- From the first instant to the last one, and back. -/
theorem delay_exact_at_the_ends :
    let first : Instant := { secs := -8334601228800, nanos := 0 }
    let last : Instant := { secs := 8210266876799, nanos := 999999999 }
    ((first.delayTo last).totalNanos = (16544868105599999999999 : Int) ∧
        first.delayTo? last = some (first.delayTo last) ∧
        StatsKind.metrics.emissions (.eventToClient first last) =
          [.observe "shardline_event_delivery_seconds" []
            ((16544868105599 : UInt64).toFloat + (999999999 : Nat).toFloat / 1e9)]) ∧
      (last.delayTo first).totalNanos = (0 : Int) ∧ last.delayTo? first = some (last.delayTo first) ∧
      StatsKind.metrics.emissions (.eventToClient last first) =
        [.observe "shardline_event_delivery_seconds" [] ((0 : UInt64).toFloat + (0 : Nat).toFloat / 1e9)] := by
  intro first last
  have hthere : first.delayTo last = { secs := 16544868105599, nanos := 999999999 } := by decide
  have hback : last.delayTo first = { secs := 0, nanos := 0 } := by decide
  obtain ⟨hsent, hnanos, -, -, -, hwords⟩ := @delay_exact first last rfl rfl
  obtain ⟨hsent', hnanos', -, -, -, hwords'⟩ := @delay_exact last first rfl rfl
  rw [hthere] at hsent
  rw [hback] at hsent'
  exact ⟨⟨hnanos.trans (by decide), hwords, hsent⟩, hnanos'.trans (by decide), hwords', hsent'⟩

end StreamConsumer
