import StreamConsumer.Proofs.Delay

/-!
# Delays around leap seconds

The carry of leap seconds looks at seconds of the day alone, so it can fall while time goes on.  Two questions are
answered about the sign and the order of delays:

* Swapping the two instants of an event turns the sign of its time, so skew of clocks is clamped in one direction only.
  The delay to a later instant is zero only over a leap second at the end of a day (`skew_clamped_one_way`).
* A later retrieval has the longer delay, but for four cases in which the carry falls or a leap second is left
  (`Shortened`).  In these, and in no others, the delay gets shorter (`delayTo_le_delayTo_iff`).
-/

namespace StreamConsumer

namespace Instant

variable (a b : Instant)

/-! ### Both directions -/

theorem totalNanos_timeTo_swap : (b.timeTo a).totalNanos = -(a.timeTo b).totalNanos := by
  rw [totalNanos_timeTo_eq_sub_add, totalNanos_timeTo_eq_sub_add, leapCarry_swap]
  omega

/-- The time to a later instant is positive, but for a leap second at the end of a day, which is not counted on the next
day. -/
theorem totalNanos_timeTo_pos_of_lt (h : a < b) :
    0 < (a.timeTo b).totalNanos ∨
      a.isLeap = true ∧ a.secondOfDay = 86399 ∧ b.secondOfDay = 0 ∧ b.day = a.day + 1 := by
  have ha := a.parts
  have hb := b.parts
  rw [isLeap_iff, totalNanos_timeTo_eq_sub_add]
  rw [lt_def] at h
  simp only [totalNanos, nanosPerSecond]
  rcases a.leapCarry_cases b with ⟨hc, hlt, hleap⟩ | ⟨hc, hlt, hleap⟩ | ⟨hc, hno, -⟩
  · -- a carried second only adds to the time
    left
    omega
  · -- an earlier second of the day comes later on another day only, where no more than its own second is taken off
    omega
  · omega

/-- On one day the time is positive only to a later instant. -/
theorem lt_of_totalNanos_timeTo_pos {a b : Instant} (hday : a.day = b.day) (hpos : 0 < (a.timeTo b).totalNanos) :
    a < b := by
  have hswap := a.totalNanos_timeTo_swap b
  by_cases hlt : b < a
  · rcases b.totalNanos_timeTo_pos_of_lt a hlt with hback | ⟨-, -, -, hnext⟩
    · omega
    · omega
  · rw [lt_def] at hlt ⊢
    by_cases hsecs : a.secs = b.secs
    · -- in one second nothing is carried
      have hcarry : a.leapCarry b = 0 := by simp [leapCarry, secondOfDay, hsecs]
      rw [totalNanos_timeTo, hcarry] at hpos
      unfold nanosPerSecond at hpos
      omega
    · omega

end Instant

/-- For an event a metrics sink sends out the seconds and nanoseconds of its delay, and the signed times in the two
directions cancel.  So at most one direction has a delay, and an instant has none to itself.  On one day the delay is
there exactly if the insertion came first.  On any days it is lost only from a leap second at the end of a day to the
first second of the next. -/
theorem skew_clamped_one_way (a b : Instant) :
    (∀ inserted retrieved, StatsKind.metrics.emissions (.eventToClient inserted retrieved) =
      [.observe "shardline_event_delivery_seconds" []
        ((inserted.delayTo retrieved).secs.toFloat + (inserted.delayTo retrieved).nanos.toFloat / 1e9)]) ∧
      (b.timeTo a).totalNanos = -(a.timeTo b).totalNanos ∧ (a.delayTo b = .zero ∨ b.delayTo a = .zero) ∧
      a.delayTo a = .zero ∧ (a.day = b.day → (a.delayTo b ≠ .zero ↔ a < b)) ∧
      (a < b → a.delayTo b = .zero →
        a.isLeap = true ∧ a.secondOfDay = 86399 ∧ b.secondOfDay = 0 ∧ b.day = a.day + 1) := by
  have hswap := a.totalNanos_timeTo_swap b
  have hself := a.totalNanos_timeTo_swap a
  rw [ne_eq, Instant.delayTo_eq_zero_iff, Instant.delayTo_eq_zero_iff, Instant.delayTo_eq_zero_iff]
  refine ⟨fun _ _ => rfl, hswap, by omega, by omega, fun hday => ⟨fun hpos => ?_, fun hlt => ?_⟩,
    fun hlt hzero => ?_⟩
  · exact Instant.lt_of_totalNanos_timeTo_pos hday (by omega)
  · rcases a.totalNanos_timeTo_pos_of_lt b hlt with hpos | ⟨-, -, -, hnext⟩
    · omega
    · omega
  · rcases a.totalNanos_timeTo_pos_of_lt b hlt with hpos | hend
    · omega
    · exact hend

/-- The start of the second day of 1970 seems to lie before the middle of a leap second at the end of the first. -/
theorem skew_clamped_one_way_at_day_end :
    let leap : Instant := { secs := 86399, nanos := 1500000000 }
    let next : Instant := { secs := 86400, nanos := 0 }
    leap < next ∧
      StatsKind.metrics.emissions (.eventToClient leap next) =
        [.observe "shardline_event_delivery_seconds" [] ((0 : UInt64).toFloat + (0 : Nat).toFloat / 1e9)] ∧
      StatsKind.metrics.emissions (.eventToClient next leap) =
        [.observe "shardline_event_delivery_seconds" [] ((0 : UInt64).toFloat + (500000000 : Nat).toFloat / 1e9)] ∧
      leap.secondOfDay = 86399 ∧ next.secondOfDay = 0 ∧ next.day = leap.day + 1 := by
  intro leap next
  have hlt : leap < next := by decide
  have hzero : leap.delayTo next = .zero := by decide
  have hhalf : next.delayTo leap = { secs := 0, nanos := 500000000 } := by decide
  obtain ⟨hsent, -, -, -, -, hend⟩ := skew_clamped_one_way leap next
  obtain ⟨-, hclock, hnext, hday⟩ := hend hlt hzero
  refine ⟨hlt, ?_, ?_, hclock, hnext, hday⟩
  · rw [hsent, hzero]
    rfl
  · rw [hsent, hhalf]

/-! ### A later retrieval -/

/-- How the time from the insertion gets shorter between two retrievals. -/
inductive Shortened (inserted earlier later : Instant) : Prop where
  /-- The earlier retrieval lies in a leap second, and the second after it starts without counting that one. -/
  | left (hleap : earlier.isLeap = true) (hsecs : later.secs = earlier.secs + 1)
      (hless : later.nanos + nanosPerSecond < earlier.nanos)
      (hclock : inserted.secondOfDay ≤ earlier.secondOfDay)
      (hown : inserted.isLeap = true → inserted.secondOfDay = earlier.secondOfDay → earlier.day < later.day)
  /-- The later retrieval lies in a leap second before the time of day of the insertion and takes it off, and nothing is
  taken off for the earlier one. -/
  | entered (hleap : later.isLeap = true) (hclock : later.secondOfDay < inserted.secondOfDay)
      (hkept : earlier.isLeap = true → inserted.secondOfDay ≤ earlier.secondOfDay)
      (hless : later.totalNanos < earlier.totalNanos + nanosPerSecond)
  /-- The leap second of the insertion is counted to the end of a day and no longer on the next day. -/
  | midnight (hleap : inserted.isLeap = true) (hclock : inserted.secondOfDay < earlier.secondOfDay)
      (hback : later.secondOfDay ≤ inserted.secondOfDay)
      (hless : later.totalNanos < earlier.totalNanos + nanosPerSecond)
  /-- On the next day the leap second of the insertion is no longer counted and that of the retrieval is taken off. -/
  | both (hleap : inserted.isLeap = true) (hleap' : later.isLeap = true)
      (hclock : inserted.secondOfDay < earlier.secondOfDay) (hback : later.secondOfDay < inserted.secondOfDay)
      (hless : later.totalNanos < earlier.totalNanos + 2 * nanosPerSecond)

section Shortened

variable {inserted earlier later : Instant}

/-- The counts stand against the order by less than a second, so a carry that grows makes up for it. -/
private theorem totalNanos_lt_of_le (h : earlier ≤ later) :
    earlier.totalNanos < later.totalNanos + 1000000000 := by
  have he := earlier.parts
  have hl := later.parts
  rw [Instant.le_def] at h
  simp only [Instant.totalNanos, nanosPerSecond]
  omega

/-- With the same carry for both, the earlier retrieval lies in a leap second that the later one has just left. -/
private theorem shortened_of_leapCarry_eq (h : earlier ≤ later)
    (hcarry : inserted.leapCarry later = inserted.leapCarry earlier)
    (hless : later.totalNanos < earlier.totalNanos) : Shortened inserted earlier later := by
  have hi := inserted.parts
  have he := earlier.parts
  have hl := later.parts
  rw [Instant.le_def] at h
  simp only [Instant.totalNanos, nanosPerSecond] at hless
  -- only nanoseconds beyond a full second can exceed the next count of seconds
  have hsecs : later.secs = earlier.secs + 1 := by omega
  have hce := inserted.leapCarry_cases earlier
  have hcl := inserted.leapCarry_cases later
  have hleap : earlier.isLeap = true := earlier.isLeap_iff.2 (by omega)
  refine .left hleap hsecs (by unfold nanosPerSecond; omega) (by omega) fun hown hclock => ?_
  rw [Instant.isLeap_iff] at hown
  omega

/-- Where a second is taken off for the later retrieval alone, that one lies in a leap second before the time of day of
the insertion. -/
private theorem shortened_of_leapCarry_neg (hcarry : inserted.leapCarry later = -1)
    (hzero : inserted.leapCarry earlier = 0) (hless : later.totalNanos < earlier.totalNanos + 1000000000) :
    Shortened inserted earlier later := by
  have hce := inserted.leapCarry_cases earlier
  have hcl := inserted.leapCarry_cases later
  refine .entered (later.isLeap_iff.2 (by omega)) (by omega) (fun hleap => ?_) hless
  rw [Instant.isLeap_iff] at hleap
  omega

/-- A second that is carried only to the earlier retrieval is lost between two days. -/
private theorem shortened_of_leapCarry_pos (hcarry : inserted.leapCarry earlier = 1)
    (hzero : inserted.leapCarry later = 0) (hless : later.totalNanos < earlier.totalNanos + 1000000000) :
    Shortened inserted earlier later := by
  have hce := inserted.leapCarry_cases earlier
  have hcl := inserted.leapCarry_cases later
  exact .midnight (inserted.isLeap_iff.2 (by omega)) (by omega) (by omega) hless

/-- Where the carry falls by two, it does so over the end of a day between two leap seconds. -/
private theorem shortened_of_leapCarry_pos_neg (hpos : inserted.leapCarry earlier = 1)
    (hneg : inserted.leapCarry later = -1) (hless : later.totalNanos < earlier.totalNanos + 2000000000) :
    Shortened inserted earlier later := by
  have hce := inserted.leapCarry_cases earlier
  have hcl := inserted.leapCarry_cases later
  exact .both (inserted.isLeap_iff.2 (by omega)) (later.isLeap_iff.2 (by omega)) (by omega) (by omega) hless

/-- In each of the cases what is carried to the later retrieval does not make up for the earlier one. -/
private theorem Shortened.totalNanos_add_lt (hshort : Shortened inserted earlier later) :
    later.totalNanos + 1000000000 * inserted.leapCarry later <
      earlier.totalNanos + 1000000000 * inserted.leapCarry earlier := by
  have he := earlier.parts
  have hl := later.parts
  have hce := inserted.leapCarry_cases earlier
  have hcl := inserted.leapCarry_cases later
  cases hshort with
  | left hleap hsecs hless hclock hown =>
    have hi := inserted.parts
    rw [Instant.isLeap_iff] at hleap hown
    simp only [Instant.totalNanos, nanosPerSecond] at hless ⊢
    omega
  | entered hleap hclock hkept hless =>
    rw [Instant.isLeap_iff] at hleap hkept
    unfold nanosPerSecond at hless
    omega
  | midnight hleap hclock hback hless =>
    rw [Instant.isLeap_iff] at hleap
    unfold nanosPerSecond at hless
    omega
  | both hleap hleap' hclock hback hless =>
    rw [Instant.isLeap_iff] at hleap hleap'
    unfold nanosPerSecond at hless
    omega

theorem totalNanos_timeTo_lt_iff (h : earlier ≤ later) :
    (inserted.timeTo later).totalNanos < (inserted.timeTo earlier).totalNanos ↔
      Shortened inserted earlier later := by
  have hcarries : (inserted.timeTo later).totalNanos < (inserted.timeTo earlier).totalNanos ↔
      later.totalNanos + 1000000000 * inserted.leapCarry later <
        earlier.totalNanos + 1000000000 * inserted.leapCarry earlier := by
    rw [Instant.totalNanos_timeTo_eq_sub_add, Instant.totalNanos_timeTo_eq_sub_add]
    omega
  rw [hcarries]
  refine ⟨fun hlt => ?_, Shortened.totalNanos_add_lt⟩
  have hcounts := totalNanos_lt_of_le h
  by_cases heq : inserted.leapCarry later = inserted.leapCarry earlier
  · exact shortened_of_leapCarry_eq h heq (by omega)
  · -- the carry falls, to minus one or from one or both
    have hce := inserted.leapCarry_cases earlier
    have hcl := inserted.leapCarry_cases later
    by_cases hneg : inserted.leapCarry later = -1
    · by_cases hzero : inserted.leapCarry earlier = 0
      · exact shortened_of_leapCarry_neg hneg hzero (by omega)
      · exact shortened_of_leapCarry_pos_neg (by omega) hneg (by omega)
    · exact shortened_of_leapCarry_pos (by omega) (by omega) (by omega)

/-- Each of the cases has a leap second in it. -/
theorem Shortened.isLeap (hshort : Shortened inserted earlier later) :
    inserted.isLeap = true ∨ earlier.isLeap = true ∨ later.isLeap = true := by
  cases hshort with
  | left hleap => exact Or.inr (Or.inl hleap)
  | entered hleap => exact Or.inr (Or.inr hleap)
  | midnight hleap => exact Or.inl hleap
  | both hleap => exact Or.inl hleap

end Shortened

/-- Half a second into a leap second the delay is longer than at the start of the next second. -/
theorem delayTo_shorter_after_leap_second :
    let inLeapSecond : Instant := { secs := 59, nanos := 1500000000 }
    let nextSecond : Instant := { secs := 60, nanos := 0 }
    inLeapSecond ≤ nextSecond ∧
      StatsKind.metrics.emissions (.eventToClient .epoch inLeapSecond) =
        [.observe "shardline_event_delivery_seconds" [] ((60 : UInt64).toFloat + (500000000 : Nat).toFloat / 1e9)] ∧
      StatsKind.metrics.emissions (.eventToClient .epoch nextSecond) =
        [.observe "shardline_event_delivery_seconds" [] ((60 : UInt64).toFloat + (0 : Nat).toFloat / 1e9)] ∧
      ¬ Instant.epoch.delayTo inLeapSecond ≤ Instant.epoch.delayTo nextSecond := by
  intro inLeapSecond nextSecond
  have hin : Instant.epoch.delayTo inLeapSecond = { secs := 60, nanos := 500000000 } := by decide
  have hnext : Instant.epoch.delayTo nextSecond = { secs := 60, nanos := 0 } := by decide
  refine ⟨by decide, ?_, ?_, ?_⟩
  · rw [StatsKind.emissions, StatsCall.emissions_eventToClient, hin]
  · rw [StatsKind.emissions, StatsCall.emissions_eventToClient, hnext]
  · rw [hin, hnext]
    decide

/-- A later retrieval is recorded with a delay that is at least as long, unless a delay is recorded for the earlier one
and one of the four cases shortens it.  Where none of the instants lies in a leap second it is always at least as
long. -/
theorem delayTo_le_delayTo_iff {earlier later : Instant} (h : earlier ≤ later) (inserted : Instant) :
    (∀ retrieved, StatsKind.metrics.emissions (.eventToClient inserted retrieved) =
      [.observe "shardline_event_delivery_seconds" []
        ((inserted.delayTo retrieved).secs.toFloat + (inserted.delayTo retrieved).nanos.toFloat / 1e9)]) ∧
      (inserted.delayTo earlier ≤ inserted.delayTo later ↔
        inserted.delayTo earlier = .zero ∨ ¬ Shortened inserted earlier later) ∧
      (inserted.isLeap = false → earlier.isLeap = false → later.isLeap = false →
        inserted.delayTo earlier ≤ inserted.delayTo later) := by
  have hiff : inserted.delayTo earlier ≤ inserted.delayTo later ↔
      inserted.delayTo earlier = .zero ∨ ¬ Shortened inserted earlier later := by
    rw [← totalNanos_timeTo_lt_iff h, Instant.delayTo_eq_zero_iff, Duration.le_iff_totalNanos_le,
      Instant.totalNanos_delayTo, Instant.totalNanos_delayTo]
    omega
  refine ⟨fun _ => rfl, hiff, fun hi he hl => hiff.2 (Or.inr fun hshort => ?_)⟩
  have hleap := hshort.isLeap
  simp [hi, he, hl] at hleap

/-- From noon on, in a leap second of the retrievals, and in one of the insertion that midnight takes away. -/
theorem delayTo_le_delayTo_iff_over_midnight :
    let noon : Instant := { secs := 43200, nanos := 0 }
    let atEnd : Instant := { secs := 86399, nanos := 1900000000 }
    let pastEnd : Instant := { secs := 86400, nanos := 1100000000 }
    let noonLeap : Instant := { secs := 43200, nanos := 1500000000 }
    let beforeEnd : Instant := { secs := 86399, nanos := 999999999 }
    let midnight : Instant := { secs := 86400, nanos := 0 }
    (atEnd ≤ pastEnd ∧ ¬ noon.delayTo atEnd ≤ noon.delayTo pastEnd ∧
        StatsKind.metrics.emissions (.eventToClient noon atEnd) =
          [.observe "shardline_event_delivery_seconds" []
            ((43200 : UInt64).toFloat + (900000000 : Nat).toFloat / 1e9)] ∧
        StatsKind.metrics.emissions (.eventToClient noon pastEnd) =
          [.observe "shardline_event_delivery_seconds" []
            ((43200 : UInt64).toFloat + (100000000 : Nat).toFloat / 1e9)]) ∧
      beforeEnd ≤ midnight ∧ ¬ noonLeap.delayTo beforeEnd ≤ noonLeap.delayTo midnight ∧
        beforeEnd.delayTo beforeEnd ≤ beforeEnd.delayTo midnight := by
  intro noon atEnd pastEnd noonLeap beforeEnd midnight
  have hle : atEnd ≤ pastEnd := by decide
  have hle' : beforeEnd ≤ midnight := by decide
  have hat : noon.delayTo atEnd = { secs := 43200, nanos := 900000000 } := by decide
  have hpast : noon.delayTo pastEnd = { secs := 43200, nanos := 100000000 } := by decide
  have hentered : Shortened noon atEnd pastEnd := .entered (by decide) (by decide) (by decide) (by decide)
  have hmidnight : Shortened noonLeap beforeEnd midnight := .midnight (by decide) (by decide) (by decide) (by decide)
  obtain ⟨hsent, hiff, -⟩ := delayTo_le_delayTo_iff hle noon
  obtain ⟨-, hiff', -⟩ := delayTo_le_delayTo_iff hle' noonLeap
  obtain ⟨-, -, hordinary⟩ := delayTo_le_delayTo_iff hle' beforeEnd
  refine ⟨⟨hle, fun hdelay => ?_, ?_, ?_⟩, hle', fun hdelay => ?_, hordinary rfl rfl rfl⟩
  · rcases hiff.1 hdelay with hzero | hnot
    · exact absurd hzero (by decide)
    · exact hnot hentered
  · rw [hsent, hat]
  · rw [hsent, hpast]
  · rcases hiff'.1 hdelay with hzero | hnot
    · exact absurd hzero (by decide)
    · exact hnot hmidnight

end StreamConsumer
