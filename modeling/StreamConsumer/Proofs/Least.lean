import StreamConsumer.Proofs.Generation

/-!
# The value reported for a bound is least

For a bound on a quantity the least value that reaches it is reported, and nothing if no value does
(`reported_values_are_least`).  All of this follows, for every quantity alike, from one fact about it: the measure of a
value reaches a bound exactly if the draw that the measure grows with reaches the number that goes with the bound
(`Quantity.Grows`).  So rounding a bound up to the unit of the draw neither overshoots nor falls short, and what is left
to show for each of the quantities is this equivalence, from the exact function that its generator computes.
-/

namespace StreamConsumer

variable {ι α β γ : Type} {g : Generator ι α}

/-- The value is drawn with every draw but one at the low end of its range. -/
def Generator.MakesLowestBut (g : Generator ι α) (i : ι) (a : α) : Prop :=
  ∃ draws, (g.Admits draws ∧ g.value draws = a) ∧ ∀ j, j ≠ i → draws j = (g.range j).lo

theorem Generator.MakesLowestBut.makes {i : ι} {a : α} (h : g.MakesLowestBut i a) : g.Makes a := by
  obtain ⟨draws, hdraws, -⟩ := h
  exact ⟨draws, hdraws⟩

namespace Quantity

/-- The measure reaches a bound exactly if the draw reaches the number that goes with the bound. -/
def Grows [LE β] (q : Quantity g β) : Prop :=
  ∀ draws, g.Admits draws → ∀ bound, bound ≤ q.measure (g.value draws) ↔ q.reach bound ≤ (draws q.draw).toNat

/-- No value that the generator makes has less of the quantity. -/
def Lowest [LE β] (q : Quantity g β) (a : α) : Prop := ∀ b, g.Makes b → q.measure a ≤ q.measure b

/-- The value reaches the bound, and has as little of the quantity as any made value that does; every draw that the
quantity does not grow with is as low as it can be. -/
structure IsLeast [LE β] (q : Quantity g β) (bound : β) (a : α) : Prop where
  makes : g.MakesLowestBut q.draw a
  reaches : bound ≤ q.measure a
  le_of_reaches : ∀ b, g.Makes b → bound ≤ q.measure b → q.measure a ≤ q.measure b

/-- What is reported for a bound is least, and nothing is reported only where there is no value. -/
structure AnswersLeast [DecidableEq ι] [LE β] (q : Quantity g β) : Prop where
  eq_none_iff : ∀ bound, q.least? bound = none ↔ ∀ a, g.Makes a → ¬ bound ≤ q.measure a
  isLeast : ∀ bound a, q.least? bound = some a → q.IsLeast bound a
  /-- For a lower bound there is an answer too, with no more of the quantity. -/
  mono : ∀ bound bound', bound ≤ bound' → ∀ a', q.least? bound' = some a' →
    ∃ a, q.least? bound = some a ∧ q.measure a ≤ q.measure a'
  /-- The quantity of an answer, asked for as a bound, is answered by the same value. -/
  again : ∀ bound a, q.least? bound = some a → q.least? (q.measure a) = some a

/-! ### From the growth of a quantity -/

theorem exists_of_least? [DecidableEq ι] {q : Quantity g β} {bound : β} {a : α} (h : q.least? bound = some a) :
    ∃ n, (n ∈ g.range q.draw ∧ q.reach bound ≤ n.toNat ∧ ∀ m ∈ g.range q.draw, q.reach bound ≤ m.toNat → n ≤ m) ∧
      g.value (g.lowestBut q.draw n) = a := by
  obtain ⟨n, hn, ha⟩ := Option.map_eq_some_iff.1 h
  exact ⟨n, Range.atLeast?_eq_some hn, ha⟩

theorem makesLowestBut_of_least? [DecidableEq ι] {q : Quantity g β} {bound : β} {a : α}
    (h : q.least? bound = some a) : g.MakesLowestBut q.draw a := by
  obtain ⟨n, ⟨hn, -, -⟩, ha⟩ := exists_of_least? h
  exact ⟨_, ⟨g.admits_lowestBut hn, ha⟩, fun j hj => g.lowestBut_of_ne hj⟩

namespace Grows

variable [LE β] {q : Quantity g β}

theorem measure_le [Std.IsPreorder β] (hq : q.Grows) {draws draws' : ι → UInt64} (h : g.Admits draws)
    (h' : g.Admits draws') (hle : draws q.draw ≤ draws' q.draw) :
    q.measure (g.value draws) ≤ q.measure (g.value draws') := by
  have hreach := (hq draws h _).1 (Std.IsPreorder.le_refl _)
  rw [UInt64.le_iff_toNat_le] at hle
  exact (hq draws' h' _).2 (Nat.le_trans hreach hle)

/-- A value whose draw is at the low end has as little of the quantity as any. -/
theorem lowest [Std.IsPreorder β] (hq : q.Grows) {i : ι} (hi : q.draw ≠ i) {a : α} (h : g.MakesLowestBut i a) :
    q.Lowest a := by
  obtain ⟨draws, ⟨hdraws, rfl⟩, hlo⟩ := h
  rintro b ⟨draws', hdraws', rfl⟩
  refine hq.measure_le hdraws hdraws' ?_
  rw [hlo _ hi]
  exact (hdraws' q.draw).1

variable [DecidableEq ι]

theorem le_measure_lowestBut_iff (hq : q.Grows) {n : UInt64} (hn : n ∈ g.range q.draw) (bound : β) :
    bound ≤ q.measure (g.value (g.lowestBut q.draw n)) ↔ q.reach bound ≤ n.toNat := by
  rw [hq _ (g.admits_lowestBut hn), g.lowestBut_self]

theorem least?_eq_none_iff (hq : q.Grows) (bound : β) :
    q.least? bound = none ↔ ∀ a, g.Makes a → ¬ bound ≤ q.measure a := by
  rw [least?, Option.map_eq_none_iff, Range.atLeast?_eq_none_iff]
  constructor
  · rintro hlt a ⟨draws, hdraws, rfl⟩ hreach
    rw [hq draws hdraws] at hreach
    have hle := UInt64.le_iff_toNat_le.1 (hdraws q.draw).2
    omega
  · -- the value of the highest draw does not reach the bound
    intro h
    have hmem : (g.range q.draw).hi ∈ g.range q.draw := ⟨(g.range q.draw).lo_le_hi, UInt64.le_refl _⟩
    have hnot := h _ ⟨_, g.admits_lowestBut hmem, rfl⟩
    rw [hq.le_measure_lowestBut_iff hmem] at hnot
    exact Nat.not_le.1 hnot

theorem isLeast [Std.IsPreorder β] (hq : q.Grows) {bound : β} {a : α} (h : q.least? bound = some a) :
    q.IsLeast bound a := by
  have hmakes := makesLowestBut_of_least? h
  obtain ⟨n, ⟨hn, hreach, hleast⟩, rfl⟩ := exists_of_least? h
  refine ⟨hmakes, (hq.le_measure_lowestBut_iff hn bound).2 hreach, ?_⟩
  rintro b ⟨draws, hdraws, rfl⟩ hbound
  refine hq.measure_le (g.admits_lowestBut hn) hdraws ?_
  rw [g.lowestBut_self]
  exact hleast _ (hdraws q.draw) ((hq draws hdraws bound).1 hbound)

theorem exists_least? [Std.IsPreorder β] (hq : q.Grows) {bound : β} {b : α} (hb : g.Makes b)
    (hbound : bound ≤ q.measure b) : ∃ a, q.least? bound = some a ∧ q.measure a ≤ q.measure b := by
  cases ha : q.least? bound with
  | none => exact absurd hbound ((hq.least?_eq_none_iff bound).1 ha b hb)
  | some a => exact ⟨a, rfl, (hq.isLeast ha).le_of_reaches b hb hbound⟩

/-- Each of the two answers has a draw from which the other one's bound is reached. -/
theorem least?_measure [Std.IsPreorder β] (hq : q.Grows) {bound : β} {a : α} (h : q.least? bound = some a) :
    q.least? (q.measure a) = some a := by
  have hreaches := (hq.isLeast h).reaches
  obtain ⟨n, ⟨hn, -, hleast⟩, rfl⟩ := exists_of_least? h
  have hself := (hq.le_measure_lowestBut_iff hn _).1 (Std.IsPreorder.le_refl _)
  obtain ⟨a', ha', -⟩ := hq.exists_least? ⟨_, g.admits_lowestBut hn, rfl⟩ (Std.IsPreorder.le_refl _)
  obtain ⟨m, ⟨hm, hreach', hleast'⟩, rfl⟩ := exists_of_least? ha'
  have hmn : m ≤ n := hleast' n hn hself
  have hbound := Std.IsPreorder.le_trans _ _ _ hreaches ((hq.le_measure_lowestBut_iff hm _).2 hreach')
  have hnm : n ≤ m := hleast m hm ((hq.le_measure_lowestBut_iff hm _).1 hbound)
  rw [ha', UInt64.le_antisymm hmn hnm]

theorem answersLeast [Std.IsPreorder β] (hq : q.Grows) : q.AnswersLeast where
  eq_none_iff := hq.least?_eq_none_iff
  isLeast _ _ h := hq.isLeast h
  mono bound bound' hle a' h := by
    have hleast := hq.isLeast h
    exact hq.exists_least? hleast.makes.makes (Std.IsPreorder.le_trans _ _ _ hle hleast.reaches)
  again _ _ h := hq.least?_measure h

end Grows

end Quantity

/-! ### Every quantity grows -/

/-- The exact function of the draws settles whether a measure of the values grows with a draw. -/
theorem Generator.Computes.grows [LE β] {R : (ι → Nat) → α → Prop} (h : g.Computes R) {q : Quantity g β}
    (hR : ∀ n a bound, R n a → (bound ≤ q.measure a ↔ q.reach bound ≤ n q.draw)) : q.Grows :=
  fun draws hdraws bound => hR _ _ bound (h draws hdraws)

theorem Duration.le_iff_millisUp_le {bound d : Duration} {n : Nat} (h : d.totalNanos = 1000000 * n) :
    bound ≤ d ↔ bound.millisUp ≤ n := by
  rw [le_iff_totalNanos_le, millisUp_le_iff, h]

namespace Quantity

open Generator

theorem subFloorThrottleDelay_grows : Quantity.subFloorThrottleDelay.Grows := by
  refine subFloorThrottleDelay_computes.grows fun n delay bound h => ?_
  show bound ≤ delay ↔ bound.totalNanos ≤ n ()
  rw [Duration.le_iff_totalNanos_le, h]

theorem validThrottleDelay_grows : Quantity.validThrottleDelay.Grows :=
  validThrottleDelay_computes.grows fun _ _ _ h => Duration.le_iff_millisUp_le h

theorem positiveDuration_grows : Quantity.positiveDuration.Grows :=
  positiveDuration_computes.grows fun _ _ _ h => Duration.le_iff_millisUp_le h

theorem invertedLeaderAction_grows : invertedLeaderAction.Grows :=
  invertedFrequencies_computes.grows fun _ _ _ h => Duration.le_iff_millisUp_le h.1

/-- The smaller frequency is taken away from the larger one, and what is left are the milliseconds of the gap. -/
theorem invertedGap_grows : invertedGap.Grows := by
  refine invertedFrequencies_computes.grows fun n p _ h => Duration.le_iff_millisUp_le ?_
  show (p.shardCheck.excess p.leaderAction).totalNanos = 1000000 * n .gap
  rw [Duration.totalNanos_excess]
  omega

theorem orderedShardCheck_grows : orderedShardCheck.Grows :=
  orderedFrequencies_computes.grows fun _ _ _ h => Duration.le_iff_millisUp_le h.1

theorem orderedGap_grows : orderedGap.Grows := by
  refine orderedFrequencies_computes.grows fun n p _ h => Duration.le_iff_millisUp_le ?_
  show (p.leaderAction.excess p.shardCheck).totalNanos = 1000000 * n .gap
  rw [Duration.totalNanos_excess]
  omega

theorem startModeIndex_grows : startModeIndex.Grows := by
  refine startMode_computes.grows fun n m bound h => ?_
  show bound ≤ m.index ↔ bound ≤ n ()
  rw [h]

theorem sequenceNumberLength_grows : sequenceNumberLength.Grows := by
  refine sequenceNumber_computes.grows fun n s bound h => ?_
  show bound ≤ s.length ↔ bound ≤ n .length
  rw [h.1]

/-- A bound within a second is reached by the next whole second, also from within a leap second. -/
theorem timestamp_grows : Quantity.timestamp.Grows := by
  refine timestamp_computes.grows fun n t bound h => ?_
  show bound ≤ t ↔ bound.secondsUp ≤ n ()
  rw [Instant.le_def, Instant.secondsUp_le_iff]
  omega

section

variable (id : Nat)

theorem configThrottleDelay_grows : (configThrottleDelay id).Grows :=
  (validConfig_computes id).grows fun _ _ _ h => Duration.le_iff_millisUp_le h.throttleDelay

theorem configCommitFrequency_grows : (configCommitFrequency id).Grows :=
  (validConfig_computes id).grows fun _ _ _ h => Duration.le_iff_millisUp_le h.commitFrequency

theorem configShardCheckFrequency_grows : (configShardCheckFrequency id).Grows :=
  (validConfig_computes id).grows fun _ _ _ h => Duration.le_iff_millisUp_le h.shardCheckFrequency

theorem configGap_grows : (configGap id).Grows := by
  refine (validConfig_computes id).grows fun n c _ h => Duration.le_iff_millisUp_le ?_
  have hshard := h.shardCheckFrequency
  have hleader := h.leaderActionFrequency
  show (c.leaderActionFrequency.excess c.shardCheckFrequency).totalNanos = 1000000 * n .gap
  rw [Duration.totalNanos_excess]
  omega

theorem configWaiterDelay_grows : (configWaiterDelay id).Grows :=
  (validConfig_computes id).grows fun _ _ _ h => Duration.le_iff_millisUp_le h.checkpointWaiterDelay

private theorem grows_of_word {q : Quantity (validConfig id) UInt64} (hreach : q.reach = UInt64.toNat)
    (hR : ∀ n c, Drawn id n c → (q.measure c).toNat = n q.draw) : q.Grows := by
  refine (validConfig_computes id).grows fun n c bound h => ?_
  rw [UInt64.le_iff_toNat_le, hR n c h, hreach]

theorem configBufferSize_grows : (configBufferSize id).Grows := grows_of_word id rfl fun _ _ h => h.bufferSize

theorem configReadCapacity_grows : (configReadCapacity id).Grows :=
  grows_of_word id rfl fun _ _ h => h.checkpointReadCapacity

theorem configWriteCapacity_grows : (configWriteCapacity id).Grows :=
  grows_of_word id rfl fun _ _ h => h.checkpointWriteCapacity

end

/-! ### The draws that are not asked for -/

/-- Whatever is reported for a bound on the one quantity, it has as little of the other as any made value. -/
def KeepsLowest [DecidableEq ι] [LE γ] (q : Quantity g β) (q' : Quantity g γ) : Prop :=
  ∀ bound a, q.least? bound = some a → q'.Lowest a

theorem Grows.keepsLowest [DecidableEq ι] [LE γ] [Std.IsPreorder γ] {q : Quantity g β} {q' : Quantity g γ}
    (hq' : q'.Grows) (hne : q'.draw ≠ q.draw) : q.KeepsLowest q' :=
  fun _ _ h => hq'.lowest hne (makesLowestBut_of_least? h)

/-- The least digits are a one, since no number begins with a zero, and zeros after it. -/
theorem toList_of_makesLowestBut_length {s : String} (h : sequenceNumber.MakesLowestBut .length s) :
    s.toList = '1' :: List.replicate (s.length - 1) '0' := by
  obtain ⟨draws, ⟨hdraws, rfl⟩, hlo⟩ := h
  have hdigits : ((List.finRange 56).map fun position => Nat.digitChar (draws (.digit position)).toNat) =
      '1' :: List.replicate 55 '0' := by
    rw [List.map_congr_left fun position _ => by rw [hlo (.digit position) nofun]]
    rfl
  have hlength : 1 ≤ (draws .length).toNat := UInt64.le_iff_toNat_le.1 (hdraws .length).1
  obtain ⟨n, hn⟩ : ∃ n, (draws .length).toNat = n + 1 := ⟨_, (Nat.sub_add_cancel hlength).symm⟩
  simp only [sequenceNumber, hdigits, hn, List.take_succ_cons, List.take_replicate, String.toList_ofList,
    String.length_ofList, List.length_cons, List.length_replicate, Nat.add_sub_cancel]

/-- Every quantity of the configuration that does not grow with this draw is as low as in any drawn one. -/
structure ConfigLowestBut (id : Nat) (i : ConfigDraw) (c : Config) : Prop where
  throttleDelay : i ≠ .throttleDelay → (configThrottleDelay id).Lowest c
  commitFrequency : i ≠ .commitFrequency → (configCommitFrequency id).Lowest c
  shardCheckFrequency : i ≠ .shardCheckFrequency → (configShardCheckFrequency id).Lowest c
  gap : i ≠ .gap → (configGap id).Lowest c
  bufferSize : i ≠ .bufferSize → (configBufferSize id).Lowest c
  checkpointReadCapacity : i ≠ .checkpointReadCapacity → (configReadCapacity id).Lowest c
  checkpointWriteCapacity : i ≠ .checkpointWriteCapacity → (configWriteCapacity id).Lowest c
  checkpointWaiterDelay : i ≠ .checkpointWaiterDelay → (configWaiterDelay id).Lowest c

theorem configLowestBut_of_makesLowestBut {id : Nat} {i : ConfigDraw} {c : Config}
    (h : (validConfig id).MakesLowestBut i c) : ConfigLowestBut id i c where
  throttleDelay hi := (configThrottleDelay_grows id).lowest hi.symm h
  commitFrequency hi := (configCommitFrequency_grows id).lowest hi.symm h
  shardCheckFrequency hi := (configShardCheckFrequency_grows id).lowest hi.symm h
  gap hi := (configGap_grows id).lowest hi.symm h
  bufferSize hi := (configBufferSize_grows id).lowest hi.symm h
  checkpointReadCapacity hi := (configReadCapacity_grows id).lowest hi.symm h
  checkpointWriteCapacity hi := (configWriteCapacity_grows id).lowest hi.symm h
  checkpointWaiterDelay hi := (configWaiterDelay_grows id).lowest hi.symm h

end Quantity

open Generator Quantity

/-- For every quantity and every bound the least value that reaches the bound is reported, and nothing only if no value
does; so more is never reported for less, and a reported quantity is its own answer.  Where a value has several
quantities, those that were not asked for are as low as they can be, and a sequence number consists of a one and zeros.
Every configuration that is reported is valid. -/
theorem reported_values_are_least :
    (Quantity.subFloorThrottleDelay.AnswersLeast ∧ Quantity.validThrottleDelay.AnswersLeast ∧
      Quantity.positiveDuration.AnswersLeast) ∧
    (invertedLeaderAction.AnswersLeast ∧ invertedLeaderAction.KeepsLowest invertedGap ∧
      invertedGap.AnswersLeast ∧ invertedGap.KeepsLowest invertedLeaderAction) ∧
    (orderedShardCheck.AnswersLeast ∧ orderedShardCheck.KeepsLowest orderedGap ∧
      orderedGap.AnswersLeast ∧ orderedGap.KeepsLowest orderedShardCheck) ∧
    (startModeIndex.AnswersLeast ∧ Quantity.timestamp.AnswersLeast ∧ sequenceNumberLength.AnswersLeast ∧
      ∀ bound s, sequenceNumberLength.least? bound = some s →
        s.toList = '1' :: List.replicate (s.length - 1) '0') ∧
    ∀ id, ((configThrottleDelay id).AnswersLeast ∧ (configCommitFrequency id).AnswersLeast ∧
        (configShardCheckFrequency id).AnswersLeast ∧ (configGap id).AnswersLeast ∧
        (configWaiterDelay id).AnswersLeast ∧ (configBufferSize id).AnswersLeast ∧
        (configReadCapacity id).AnswersLeast ∧ (configWriteCapacity id).AnswersLeast) ∧
      ∀ (β : Type) (q : Quantity (validConfig id) β) (bound : β) (c : Config), q.least? bound = some c →
        c.validate = .ok () ∧ ConfigLowestBut id q.draw c := by
  refine ⟨⟨subFloorThrottleDelay_grows.answersLeast, validThrottleDelay_grows.answersLeast,
      positiveDuration_grows.answersLeast⟩,
    ⟨invertedLeaderAction_grows.answersLeast, invertedGap_grows.keepsLowest nofun,
      invertedGap_grows.answersLeast, invertedLeaderAction_grows.keepsLowest nofun⟩,
    ⟨orderedShardCheck_grows.answersLeast, orderedGap_grows.keepsLowest nofun,
      orderedGap_grows.answersLeast, orderedShardCheck_grows.keepsLowest nofun⟩,
    ⟨startModeIndex_grows.answersLeast, timestamp_grows.answersLeast, sequenceNumberLength_grows.answersLeast,
      fun bound s h => toList_of_makesLowestBut_length (makesLowestBut_of_least? h)⟩,
    fun id => ⟨⟨(configThrottleDelay_grows id).answersLeast, (configCommitFrequency_grows id).answersLeast,
      (configShardCheckFrequency_grows id).answersLeast, (configGap_grows id).answersLeast,
      (configWaiterDelay_grows id).answersLeast, (configBufferSize_grows id).answersLeast,
      (configReadCapacity_grows id).answersLeast, (configWriteCapacity_grows id).answersLeast⟩,
      fun β q bound c h => ?_⟩⟩
  have hmakes := makesLowestBut_of_least? h
  exact ⟨Config.validate_of_makes hmakes.makes, configLowestBut_of_makesLowestBut hmakes⟩

/-- An instant in a leap second, a throttle delay a nanosecond above the floor, the longest duration of all, and a
length of three digits. -/
theorem reported_values_are_least_at_odd_bounds :
    let leap : Instant := { secs := 1483228799, nanos := 1500000000 }
    let next : Instant := { secs := 1483228800, nanos := 0 }
    let above : Duration := { secs := 0, nanos := 200000001 }
    let drawn := (validConfig 7).value ((validConfig 7).lowestBut .throttleDelay 201)
    let longest : Duration := { secs := 18446744073709551615, nanos := 999999999 }
    (Quantity.timestamp.least? leap = some next ∧ Quantity.timestamp.IsLeast leap next) ∧
      ((configThrottleDelay 7).least? above = some drawn ∧ drawn.throttleDelay = { secs := 0, nanos := 201000000 } ∧
        (configThrottleDelay 7).IsLeast above drawn ∧ drawn.validate = .ok () ∧ (configGap 7).Lowest drawn) ∧
      (orderedGap.least? longest = none ∧
        ∀ p, orderedFrequencies.Makes p → ¬ longest ≤ p.leaderAction.excess p.shardCheck) ∧
      (sequenceNumberLength.least? 3 = some "100" ∧ "100".toList = '1' :: List.replicate 2 '0') := by
  intro leap next above drawn longest
  obtain ⟨-, -, ⟨-, -, hgap, -⟩, ⟨-, htimestamp, -, hdigits⟩, hconfig⟩ := reported_values_are_least
  obtain ⟨⟨hthrottle, -⟩, hdrawn⟩ := hconfig 7
  have hnext : Quantity.timestamp.least? leap = some next := rfl
  have habove : (configThrottleDelay 7).least? { secs := 0, nanos := 200000001 } =
      some ((validConfig 7).value ((validConfig 7).lowestBut .throttleDelay 201)) := by decide
  have hlongest : orderedGap.least? { secs := 18446744073709551615, nanos := 999999999 } = none := by decide
  have hthree : sequenceNumberLength.least? 3 = some "100" := rfl
  obtain ⟨hvalid, hlowest⟩ := hdrawn _ _ _ _ habove
  exact ⟨⟨hnext, htimestamp.isLeast _ _ hnext⟩,
    ⟨habove, rfl, hthrottle.isLeast _ _ habove, hvalid, hlowest.gap nofun⟩,
    ⟨hlongest, (hgap.eq_none_iff longest).1 hlongest⟩, ⟨hthree, hdigits 3 _ hthree⟩⟩

end StreamConsumer
