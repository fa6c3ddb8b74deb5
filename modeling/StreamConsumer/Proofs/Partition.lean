import StreamConsumer.Proofs.Generation

/-!
# No gap and no overlap

The ordered and the inverted frequencies have no pair in common, and every pair of positive durations is drawn by one of
the two, in one way only; the delays below the floor are exactly those that validation refuses
(`generators_leave_no_gap`).  That a value is drawn follows from its description by numbers: where the description
leaves no choice of the value, numbers from the ranges make it (`Computes.makes`), and where it leaves no choice of the
numbers either, they make it once (`Computes.makesOnce`).
-/

namespace StreamConsumer

namespace Generator

variable {ι α : Type}

/-- There is one and only one way to draw the value. -/
def MakesOnce (g : Generator ι α) (a : α) : Prop :=
  ∃ draws, (g.Admits draws ∧ g.value draws = a) ∧ ∀ draws', g.Admits draws' → g.value draws' = a → draws' = draws

theorem MakesOnce.makes {g : Generator ι α} {a : α} (h : g.MakesOnce a) : g.Makes a := by
  obtain ⟨draws, hdraws, -⟩ := h
  exact ⟨draws, hdraws⟩

/-! ### Drawing numbers that are given -/

/-- Numbers from the ranges are drawn as words. -/
private theorem exists_draws {g : Generator ι α} {n : ι → Nat}
    (hn : ∀ i, (g.range i).lo.toNat ≤ n i ∧ n i ≤ (g.range i).hi.toNat) :
    ∃ draws, g.Admits draws ∧ ∀ i, (draws i).toNat = n i := by
  have hword : ∀ i, (UInt64.ofNat (n i)).toNat = n i := by
    intro i
    have hle := (hn i).2
    have hlt := (g.range i).hi.toNat_lt
    rw [UInt64.toNat_ofNat', Nat.mod_eq_of_lt (by omega)]
  refine ⟨fun i => UInt64.ofNat (n i), fun i => ?_, hword⟩
  rw [Range.mem_def, UInt64.le_iff_toNat_le, UInt64.le_iff_toNat_le, hword]
  exact hn i

variable {g : Generator ι α} {R : (ι → Nat) → α → Prop} {n : ι → Nat} {a : α}

/-- Numbers from the ranges make the only value that is in the relation to them. -/
theorem Computes.makes (h : g.Computes R) (hn : ∀ i, (g.range i).lo.toNat ≤ n i ∧ n i ≤ (g.range i).hi.toNat)
    (hvalue : ∀ b, R n b → b = a) : g.Makes a := by
  obtain ⟨draws, hdraws, hnumbers⟩ := exists_draws hn
  have hR := h draws hdraws
  rw [funext hnumbers] at hR
  exact ⟨draws, hdraws, hvalue _ hR⟩

theorem Computes.makesOnce (h : g.Computes R) (hn : ∀ i, (g.range i).lo.toNat ≤ n i ∧ n i ≤ (g.range i).hi.toNat)
    (hvalue : ∀ b, R n b → b = a) (hnumbers : ∀ n', R n' a → n' = n) : g.MakesOnce a := by
  obtain ⟨draws, hdraws, ha⟩ := h.makes hn hvalue
  refine ⟨draws, ⟨hdraws, ha⟩, fun draws' hdraws' ha' => funext fun i => ?_⟩
  -- both ways to draw the value draw the same numbers
  have hR := h draws hdraws
  have hR' := h draws' hdraws'
  rw [ha] at hR
  rw [ha'] at hR'
  have heq := congrFun ((hnumbers _ hR').trans (hnumbers _ hR).symm) i
  exact UInt64.toNat_inj.1 heq

/-! ### Pairs of frequencies -/

theorem exists_millis_of_positiveDuration {d : Duration} (h : positiveDuration.Makes d) :
    ∃ m, (1 ≤ m ∧ m ≤ 3600000) ∧ d.totalNanos = 1000000 * m := by
  obtain ⟨n, hn, hd⟩ := positiveDuration_computes.exists_of_makes h
  exact ⟨n (), hn (), hd⟩

/-- Where a generator makes a smaller frequency and the gap to a larger one, it makes a pair once. -/
private theorem makesOnce_of_gap {g : Generator FrequencyDraw Frequencies} {smaller larger : Frequencies → Duration}
    (h : g.Computes fun n p => (smaller p).totalNanos = 1000000 * n .smaller ∧
      (larger p).totalNanos = 1000000 * (n .smaller + n .gap))
    (hpair : ∀ p p', smaller p = smaller p' → larger p = larger p' → p = p') {p : Frequencies} {m k : Nat}
    (hm : (g.range .smaller).lo.toNat ≤ m ∧ m ≤ (g.range .smaller).hi.toNat)
    (hk : (g.range .gap).lo.toNat ≤ k ∧ k ≤ (g.range .gap).hi.toNat)
    (hsmaller : (smaller p).totalNanos = 1000000 * m) (hlarger : (larger p).totalNanos = 1000000 * (m + k)) :
    g.MakesOnce p := by
  refine h.makesOnce (n := fun i => if i = .smaller then m else k) (fun i => ?_) (fun p' hp' => ?_)
    fun n hn => funext fun i => ?_
  · cases i with
    | smaller => exact hm
    | gap => exact hk
  · obtain ⟨hsmaller', hlarger'⟩ := hp'
    exact hpair p' p (Duration.eq_of_totalNanos_eq (hsmaller'.trans hsmaller.symm))
      (Duration.eq_of_totalNanos_eq (hlarger'.trans hlarger.symm))
  · obtain ⟨hsmaller', hlarger'⟩ := hn
    cases i with
    | smaller =>
      show n .smaller = m
      omega
    | gap =>
      show n .gap = k
      omega

private theorem Frequencies.eq_of_parts {p p' : Frequencies} (hs : p.shardCheck = p'.shardCheck)
    (hl : p.leaderAction = p'.leaderAction) : p = p' := by
  obtain ⟨s, l⟩ := p
  obtain ⟨s', l'⟩ := p'
  rw [Frequencies.mk.injEq]
  exact ⟨hs, hl⟩

/-- Two equal frequencies are drawn with no gap. -/
theorem makesOnce_orderedFrequencies {s l : Duration} (hs : positiveDuration.Makes s) (hl : positiveDuration.Makes l)
    (h : s ≤ l) : orderedFrequencies.MakesOnce { shardCheck := s, leaderAction := l } := by
  obtain ⟨m, hm, hsm⟩ := exists_millis_of_positiveDuration hs
  obtain ⟨k, hk, hlk⟩ := exists_millis_of_positiveDuration hl
  rw [Duration.le_iff_totalNanos_le] at h
  have hgap : 0 ≤ k - m ∧ k - m ≤ 3600000 := by omega
  have hlarger : l.totalNanos = 1000000 * (m + (k - m)) := by omega
  exact makesOnce_of_gap orderedFrequencies_computes (fun _ _ => Frequencies.eq_of_parts) hm hgap hsm hlarger

theorem makesOnce_invertedFrequencies {s l : Duration} (hs : positiveDuration.Makes s) (hl : positiveDuration.Makes l)
    (h : l < s) : invertedFrequencies.MakesOnce { shardCheck := s, leaderAction := l } := by
  obtain ⟨m, hm, hsm⟩ := exists_millis_of_positiveDuration hs
  obtain ⟨k, hk, hlk⟩ := exists_millis_of_positiveDuration hl
  rw [Duration.lt_iff_totalNanos_lt] at h
  have hgap : 1 ≤ m - k ∧ m - k ≤ 3600000 := by omega
  have hlarger : s.totalNanos = 1000000 * (k + (m - k)) := by omega
  exact makesOnce_of_gap invertedFrequencies_computes (fun _ _ hl hs => Frequencies.eq_of_parts hs hl) hk hgap hlk
    hlarger

/-- A pair that both generators make would have the smaller frequency on either side. -/
theorem not_makes_ordered_and_inverted (p : Frequencies) :
    ¬ (orderedFrequencies.Makes p ∧ invertedFrequencies.Makes p) := by
  rintro ⟨hordered, hinverted⟩
  have hle := bounds_of_orderedFrequencies hordered
  have hlt := bounds_of_invertedFrequencies hinverted
  omega

/-! ### Delays at the floor -/

/-- Every number of nanoseconds below the floor is drawn. -/
theorem makes_subFloorThrottleDelay_iff (delay : Duration) :
    subFloorThrottleDelay.Makes delay ↔ delay.totalNanos < 200000000 := by
  constructor
  · exact totalNanos_lt_of_subFloorThrottleDelay
  · intro h
    refine subFloorThrottleDelay_computes.makes (n := fun _ => delay.totalNanos) (fun _ => ⟨Nat.zero_le _, ?_⟩)
      fun _ => Duration.eq_of_totalNanos_eq
    show delay.totalNanos ≤ 199999999
    omega

end Generator

open Generator

theorem Config.validate_set_throttleDelay {c : Config} (hc : c.validate = .ok ()) (delay : Duration) :
    (c.set (.throttleDelay delay)).validate =
      if delay.totalNanos < 200000000 then .error .throttleDelayTooShort else .ok () := by
  split
  · next hlt => exact c.validate_set_throttleDelay_of_lt hlt
  · next hle => exact validate_set_throttleDelay_of_le hc (Nat.not_lt.1 hle)

/-- Every pair of positive durations is made by exactly one of the generators of frequencies, from exactly one pair of
draws: by the ordered one where the shard check is not slower than the leader action, by the inverted one where it is.
No pair at all is made by both.  The delays below the floor are exactly those that a configuration, valid but for its
throttle delay, is refused for; with any other delay it is valid.  No delay is made both below and above the floor. -/
theorem generators_leave_no_gap :
    (∀ s l : Duration, positiveDuration.Makes s → positiveDuration.Makes l →
      let p : Frequencies := { shardCheck := s, leaderAction := l }
      (s ≤ l ∨ l < s) ∧
        (s ≤ l → orderedFrequencies.MakesOnce p ∧ ¬ invertedFrequencies.Makes p) ∧
        (l < s → invertedFrequencies.MakesOnce p ∧ ¬ orderedFrequencies.Makes p)) ∧
    (∀ p, ¬ (orderedFrequencies.Makes p ∧ invertedFrequencies.Makes p)) ∧
    (∀ c : Config, c.validate = .ok () → ∀ delay : Duration,
      (subFloorThrottleDelay.Makes delay ↔
        (c.set (.throttleDelay delay)).validate = .error .throttleDelayTooShort) ∧
      (¬ subFloorThrottleDelay.Makes delay ↔ (c.set (.throttleDelay delay)).validate = .ok ())) ∧
    ∀ delay, ¬ (subFloorThrottleDelay.Makes delay ∧ validThrottleDelay.Makes delay) := by
  refine ⟨fun s l hs hl => ⟨?_, fun hle => ?_, fun hlt => ?_⟩, not_makes_ordered_and_inverted,
    fun c hc delay => ?_, fun delay hboth => ?_⟩
  · rw [Duration.le_iff_totalNanos_le, Duration.lt_iff_totalNanos_lt]
    omega
  · have hmakes := makesOnce_orderedFrequencies hs hl hle
    exact ⟨hmakes, fun hinverted => not_makes_ordered_and_inverted _ ⟨hmakes.makes, hinverted⟩⟩
  · have hmakes := makesOnce_invertedFrequencies hs hl hlt
    exact ⟨hmakes, fun hordered => not_makes_ordered_and_inverted _ ⟨hordered, hmakes.makes⟩⟩
  · rw [makes_subFloorThrottleDelay_iff, Config.validate_set_throttleDelay hc]
    by_cases hlt : delay.totalNanos < 200000000
    · simp [hlt]
    · simp [hlt]
  · have hlt := totalNanos_lt_of_subFloorThrottleDelay hboth.1
    have hle := le_totalNanos_of_validThrottleDelay hboth.2
    omega

/-- Two equal frequencies of an hour, the same with the leader action a millisecond faster, and the delays on both sides
of the floor. -/
theorem generators_leave_no_gap_at_the_ends :
    let c := Config.testing 4
    let hour : Duration := { secs := 3600, nanos := 0 }
    let faster : Duration := { secs := 3599, nanos := 999000000 }
    let equal : Frequencies := { shardCheck := hour, leaderAction := hour }
    let apart : Frequencies := { shardCheck := hour, leaderAction := faster }
    let below : Duration := { secs := 0, nanos := 199999999 }
    let floor : Duration := { secs := 0, nanos := 200000000 }
    positiveDuration.Makes hour ∧ positiveDuration.Makes faster ∧ c.validate = .ok () ∧
      (hour ≤ hour ∧ orderedFrequencies.MakesOnce equal ∧ ¬ invertedFrequencies.Makes equal) ∧
      (faster < hour ∧ invertedFrequencies.MakesOnce apart ∧ ¬ orderedFrequencies.Makes apart) ∧
      (c.set (.throttleDelay below)).validate = .error .throttleDelayTooShort ∧ subFloorThrottleDelay.Makes below ∧
      (c.set (.throttleDelay floor)).validate = .ok () ∧ ¬ subFloorThrottleDelay.Makes floor := by
  intro c hour faster equal apart below floor
  have hhour : positiveDuration.Makes hour := positiveDuration.makes_highest
  have hdrawn : (3599999 : UInt64) ∈ positiveMillis := ⟨by decide, by decide⟩
  have hfaster : positiveDuration.Makes faster := ⟨fun _ => 3599999, fun _ => hdrawn, rfl⟩
  have hc : c.validate = .ok () := rfl
  obtain ⟨hpairs, -, hdelays, -⟩ := generators_leave_no_gap
  obtain ⟨-, hordered, -⟩ := hpairs hour hour hhour hhour
  obtain ⟨-, -, hinverted⟩ := hpairs hour faster hhour hfaster
  have hbelow : (c.set (.throttleDelay below)).validate = .error .throttleDelayTooShort := rfl
  have hfloor : (c.set (.throttleDelay floor)).validate = .ok () := rfl
  exact ⟨hhour, hfaster, hc, ⟨by decide, hordered (by decide)⟩, ⟨by decide, hinverted (by decide)⟩, hbelow,
    (hdelays c hc below).1.2 hbelow, hfloor, (hdelays c hc floor).2.2 hfloor⟩

end StreamConsumer
