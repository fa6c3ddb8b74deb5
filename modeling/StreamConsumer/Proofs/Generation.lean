import StreamConsumer.Generator.Config
import StreamConsumer.Generator.Start
import StreamConsumer.Proofs.Reading
import StreamConsumer.Proofs.Start

/-!
# Generated values and validation

Every generated value stands on its side of validation (`generators_keep_their_sides`).  First, the words that are
drawn are added and converted without any loss: a generated value is the exact function of its draws as natural numbers
(`Generator.Computes`).  From this and the ranges follow the bounds in nanoseconds, and from the bounds the verdicts.
-/

namespace StreamConsumer

namespace Generator

variable {ι α : Type}

/-- Whatever is drawn, the generated value is in this relation to the drawn numbers. -/
def Computes (g : Generator ι α) (R : (ι → Nat) → α → Prop) : Prop :=
  ∀ draws, g.Admits draws → R (fun i => (draws i).toNat) (g.value draws)

/-- No range is empty, so there is a value at its low ends. -/
theorem makes_lowest (g : Generator ι α) : g.Makes (g.value fun i => (g.range i).lo) :=
  ⟨_, fun i => ⟨UInt64.le_refl _, (g.range i).lo_le_hi⟩, rfl⟩

theorem makes_highest (g : Generator ι α) : g.Makes (g.value fun i => (g.range i).hi) :=
  ⟨_, fun i => ⟨(g.range i).lo_le_hi, UInt64.le_refl _⟩, rfl⟩

/-- A generated value is in the relation to some numbers from the ranges. -/
theorem Computes.exists_of_makes {g : Generator ι α} {R : (ι → Nat) → α → Prop} (h : g.Computes R) {a : α}
    (ha : g.Makes a) :
    ∃ n : ι → Nat, (∀ i, (g.range i).lo.toNat ≤ n i ∧ n i ≤ (g.range i).hi.toNat) ∧ R n a := by
  obtain ⟨draws, hdraws, rfl⟩ := ha
  refine ⟨_, fun i => ?_, h draws hdraws⟩
  have hi := hdraws i
  rw [Range.mem_def, UInt64.le_iff_toNat_le, UInt64.le_iff_toNat_le] at hi
  exact hi

/-- The milliseconds of two draws from ranges up to an hour are added without overflow. -/
private theorem totalNanos_ofMillis_add {m n : UInt64} (hm : m.toNat ≤ 3600000) (hn : n.toNat ≤ 3600000) :
    (Duration.ofMillis (m + n)).totalNanos = 1000000 * (m.toNat + n.toNat) := by
  have hlt : m.toNat + n.toNat < 2 ^ 64 := by omega
  rw [Duration.totalNanos_ofMillis, UInt64.toNat_add, Nat.mod_eq_of_lt hlt]

/-- The upper end of the range bounds an admitted draw. -/
private theorem Admits.toNat_le {g : Generator ι α} {draws : ι → UInt64} (h : g.Admits draws) (i : ι) :
    (draws i).toNat ≤ (g.range i).hi.toNat := UInt64.le_iff_toNat_le.1 (h i).2

/-! ### Exact values -/

theorem subFloorThrottleDelay_computes :
    subFloorThrottleDelay.Computes fun n delay => delay.totalNanos = n () :=
  fun draws _ => Duration.totalNanos_ofNanos (draws ())

theorem validThrottleDelay_computes :
    validThrottleDelay.Computes fun n delay => delay.totalNanos = 1000000 * n () :=
  fun draws _ => Duration.totalNanos_ofMillis (draws ())

theorem positiveDuration_computes :
    positiveDuration.Computes fun n d => d.totalNanos = 1000000 * n () :=
  fun draws _ => Duration.totalNanos_ofMillis (draws ())

theorem orderedFrequencies_computes :
    orderedFrequencies.Computes fun n p =>
      p.shardCheck.totalNanos = 1000000 * n .smaller ∧
        p.leaderAction.totalNanos = 1000000 * (n .smaller + n .gap) := by
  intro draws h
  exact ⟨Duration.totalNanos_ofMillis _, totalNanos_ofMillis_add (h.toNat_le .smaller) (h.toNat_le .gap)⟩

theorem invertedFrequencies_computes :
    invertedFrequencies.Computes fun n p =>
      p.leaderAction.totalNanos = 1000000 * n .smaller ∧
        p.shardCheck.totalNanos = 1000000 * (n .smaller + n .gap) := by
  intro draws h
  exact ⟨Duration.totalNanos_ofMillis _, totalNanos_ofMillis_add (h.toNat_le .smaller) (h.toNat_le .gap)⟩

theorem startMode_computes : startMode.Computes fun n m => m.index = n () := by
  intro draws h
  have hle : (draws ()).toNat ≤ 4 := h.toNat_le ()
  -- every drawn number is a place of the list, so the mode that stands for a missing one is never taken
  show (StartMode.all[(draws ()).toNat]?.getD .trimHorizon).index = (draws ()).toNat
  obtain h | h | h | h | h : (draws ()).toNat = 0 ∨ (draws ()).toNat = 1 ∨ (draws ()).toNat = 2 ∨
      (draws ()).toNat = 3 ∨ (draws ()).toNat = 4 := by omega
  all_goals
    rw [h]
    rfl

theorem timestamp_computes : timestamp.Computes fun n t => t.secs = n () ∧ t.nanos = 0 := by
  intro draws h
  have hle : (draws ()).toNat ≤ 2051222399 := h.toNat_le ()
  -- the drawn seconds and no nanoseconds always make an instant
  have hparts : (-8334601228800 ≤ ((draws ()).toNat : Int) ∧ ((draws ()).toNat : Int) ≤ 8210266876799) ∧
      0 < 2 * nanosPerSecond := by
    unfold nanosPerSecond
    omega
  show ((Instant.ofParts? (draws ()).toNat 0).getD Instant.epoch).secs = _ ∧
    ((Instant.ofParts? (draws ()).toNat 0).getD Instant.epoch).nanos = 0
  rw [Instant.ofParts?, dif_pos hparts]
  exact ⟨rfl, rfl⟩

theorem sequenceNumber_computes :
    sequenceNumber.Computes fun n s =>
      s.length = n .length ∧
        ∀ position : Fin 56, position < n .length →
          s.toList[position.val]? = some (Nat.digitChar (n (.digit position))) := by
  intro draws h
  have hle : (draws .length).toNat ≤ 56 := h.toNat_le .length
  simp only [sequenceNumber, String.length_ofList, String.toList_ofList, List.length_take, List.length_map,
    List.length_finRange]
  constructor
  · omega
  · intro position hlt
    rw [List.getElem?_take_of_lt hlt, List.getElem?_map, List.getElem?_eq_getElem (by simp)]
    simp

/-- The configuration holds exactly the drawn numbers, and sinks and a start that were not drawn. -/
structure Drawn (id : Nat) (n : ConfigDraw → Nat) (c : Config) : Prop where
  throttleDelay : c.throttleDelay.totalNanos = 1000000 * n .throttleDelay
  commitFrequency : c.commitFrequency.totalNanos = 1000000 * n .commitFrequency
  shardCheckFrequency : c.shardCheckFrequency.totalNanos = 1000000 * n .shardCheckFrequency
  leaderActionFrequency : c.leaderActionFrequency.totalNanos = 1000000 * (n .shardCheckFrequency + n .gap)
  bufferSize : c.bufferSize.toNat = n .bufferSize
  checkpointReadCapacity : c.checkpointReadCapacity.toNat = n .checkpointReadCapacity
  checkpointWriteCapacity : c.checkpointWriteCapacity.toNat = n .checkpointWriteCapacity
  checkpointWaiterDelay : c.checkpointWaiterDelay.totalNanos = 1000000 * n .checkpointWaiterDelay
  stats : c.stats = (Config.standard id).stats
  logger : c.logger = (Config.standard id).logger
  start : c.start = (Config.standard id).start

theorem validConfig_computes (id : Nat) : (validConfig id).Computes (Drawn id) := by
  intro draws h
  exact
    { throttleDelay := Duration.totalNanos_ofMillis _
      commitFrequency := Duration.totalNanos_ofMillis _
      shardCheckFrequency := Duration.totalNanos_ofMillis _
      leaderActionFrequency := totalNanos_ofMillis_add (h.toNat_le .shardCheckFrequency) (h.toNat_le .gap)
      bufferSize := rfl
      checkpointReadCapacity := rfl
      checkpointWriteCapacity := rfl
      checkpointWaiterDelay := Duration.totalNanos_ofMillis _
      stats := rfl
      logger := rfl
      start := rfl }

/-! ### Bounds -/

theorem toNat_word {n : Nat} (h : n < UInt64.size) : (word n).toNat = n := by
  rw [word, if_pos h, UInt64.toNat_ofNat', Nat.mod_eq_of_lt h]

/-- The floor fits into a word of nanoseconds, and the range of delays below it ends one nanosecond before. -/
theorem succ_hi_subFloorThrottleDelay :
    (subFloorThrottleDelay.range ()).hi.toNat + 1 = minThrottleDelay.totalNanos := by
  have hword : (word minThrottleDelay.totalNanos).toNat = minThrottleDelay.totalNanos := toNat_word (by decide)
  have hle : 1 ≤ word minThrottleDelay.totalNanos := by decide
  show (word minThrottleDelay.totalNanos - 1).toNat + 1 = minThrottleDelay.totalNanos
  rw [UInt64.toNat_sub_of_le _ _ hle, hword]
  decide

/-- The floor is a whole number of milliseconds, and the range of accepted delays starts there. -/
theorem lo_validThrottleDelay :
    1000000 * (validThrottleDelay.range ()).lo.toNat = minThrottleDelay.totalNanos := by
  show 1000000 * (word minThrottleDelay.wholeMillis).toNat = minThrottleDelay.totalNanos
  rw [toNat_word (by decide)]
  decide

private theorem totalNanos_minThrottleDelay : minThrottleDelay.totalNanos = 200000000 :=
  Duration.totalNanos_ofMillis 200

theorem totalNanos_lt_of_subFloorThrottleDelay {delay : Duration} (h : subFloorThrottleDelay.Makes delay) :
    delay.totalNanos < 200000000 := by
  obtain ⟨n, hn, hdelay⟩ := subFloorThrottleDelay_computes.exists_of_makes h
  have hhi := (hn ()).2
  have hfloor := succ_hi_subFloorThrottleDelay
  have hmin := totalNanos_minThrottleDelay
  omega

theorem le_totalNanos_of_validThrottleDelay {delay : Duration} (h : validThrottleDelay.Makes delay) :
    200000000 ≤ delay.totalNanos := by
  obtain ⟨n, hn, hdelay⟩ := validThrottleDelay_computes.exists_of_makes h
  have hlo := (hn ()).1
  have hfloor := lo_validThrottleDelay
  have hmin := totalNanos_minThrottleDelay
  omega

theorem totalNanos_ne_zero_of_positiveDuration {d : Duration} (h : positiveDuration.Makes d) : d.totalNanos ≠ 0 := by
  obtain ⟨n, hn, hd⟩ := positiveDuration_computes.exists_of_makes h
  have hlo : 1 ≤ n () := (hn ()).1
  omega

theorem bounds_of_orderedFrequencies {p : Frequencies} (h : orderedFrequencies.Makes p) :
    p.shardCheck.totalNanos ≠ 0 ∧ p.shardCheck.totalNanos ≤ p.leaderAction.totalNanos := by
  obtain ⟨n, hn, hshard, hleader⟩ := orderedFrequencies_computes.exists_of_makes h
  have hlo : 1 ≤ n .smaller := (hn .smaller).1
  omega

theorem bounds_of_invertedFrequencies {p : Frequencies} (h : invertedFrequencies.Makes p) :
    p.leaderAction.totalNanos ≠ 0 ∧ p.leaderAction.totalNanos < p.shardCheck.totalNanos := by
  obtain ⟨n, hn, hleader, hshard⟩ := invertedFrequencies_computes.exists_of_makes h
  have hlo : 1 ≤ n .smaller := (hn .smaller).1
  have hgap : 1 ≤ n .gap := (hn .gap).1
  omega

/-- The two frequencies as changes, the shard check first. -/
def Frequencies.changes (p : Frequencies) : List Change :=
  [.set (.shardCheckFrequency p.shardCheck), .set (.leaderActionFrequency p.leaderAction)]

end Generator

/-! ### Verdicts -/

namespace Config

open Generator

variable {c : Config}

theorem validate_set_throttleDelay_of_lt (c : Config) {delay : Duration} (h : delay.totalNanos < 200000000) :
    (c.set (.throttleDelay delay)).validate = .error .throttleDelayTooShort := by
  rw [validate_eq_error_iff]
  refine ⟨.throttleDelayFloor, ⟨h, fun r hr => ?_⟩, rfl⟩
  cases r <;> simp [Rule.number] at hr

theorem validate_set_throttleDelay_of_le (hc : c.validate = .ok ()) {delay : Duration}
    (h : 200000000 ≤ delay.totalNanos) : (c.set (.throttleDelay delay)).validate = .ok () := by
  rw [validate_eq_ok_iff] at hc ⊢
  intro r
  have hr := hc r
  cases r with
  | throttleDelayFloor => exact Nat.not_lt.2 h
  | _ => exact hr

theorem validate_set_commitFrequency (hc : c.validate = .ok ()) {frequency : Duration}
    (h : frequency.totalNanos ≠ 0) : (c.set (.commitFrequency frequency)).validate = .ok () := by
  rw [validate_eq_ok_iff] at hc ⊢
  intro r
  have hr := hc r
  cases r with
  | commitFrequencyPositive => exact h
  | _ => exact hr

theorem validate_ordered (hc : c.validate = .ok ()) {p : Frequencies}
    (h : p.shardCheck.totalNanos ≠ 0 ∧ p.shardCheck.totalNanos ≤ p.leaderAction.totalNanos) :
    (c.applyAll p.changes).validate = .ok () := by
  rw [validate_eq_ok_iff] at hc ⊢
  intro r
  have hr := hc r
  cases r with
  | shardCheckFrequencyPositive => exact h.1
  | leaderActionFrequencyPositive => exact fun hzero : p.leaderAction.totalNanos = 0 => h.1 (by omega)
  | shardCheckWithinLeaderAction => exact Nat.not_lt.2 h.2
  | _ => exact hr

/-- The rules before the fifth one are kept, so it is the first that is broken. -/
theorem validate_inverted (hc : c.validate = .ok ()) {p : Frequencies}
    (h : p.leaderAction.totalNanos ≠ 0 ∧ p.leaderAction.totalNanos < p.shardCheck.totalNanos) :
    (c.applyAll p.changes).validate = .error .leaderActionFrequencyTooShort := by
  rw [validate_eq_ok_iff] at hc
  rw [validate_eq_error_iff]
  refine ⟨.shardCheckWithinLeaderAction, ⟨h.2, fun r hlt => ?_⟩, rfl⟩
  have hr := hc r
  cases r with
  | throttleDelayFloor => exact hr
  | commitFrequencyPositive => exact hr
  | shardCheckFrequencyPositive => exact fun hzero : p.shardCheck.totalNanos = 0 => by omega
  | leaderActionFrequencyPositive => exact h.1
  | _ => exact absurd hlt (by decide)

/-- The order of the two changes does not matter. -/
theorem applyAll_changes (c : Config) {p : Frequencies} {chain : List Change}
    (h : chain = p.changes ∨ chain = p.changes.reverse) : c.applyAll chain = c.applyAll p.changes := by
  rcases h with rfl | rfl
  · rfl
  · rfl

/-- Whatever is chosen for the start and for the delay of the checkpoint waiter, the verdict stays. -/
theorem validate_applyAll_of_unchecked (c : Config) {chain : List Change}
    (h : ∀ change ∈ chain, (∃ choice, change = .set (.start choice)) ∨
      ∃ delay, change = .set (.checkpointWaiterDelay delay)) :
    (c.applyAll chain).validate = c.validate := by
  refine c.validate_applyAll_of_unread fun change hc r => ?_
  obtain ⟨choice, rfl⟩ | ⟨delay, rfl⟩ := h change hc
  · exact r.written?_start choice
  · exact r.written?_checkpointWaiterDelay delay

theorem startPosition_of_drawn {id : Nat} {n : ConfigDraw → Nat} (h : Drawn id n c) {checkpoint : Option String}
    (hc : checkpoint = none ∨ checkpoint = some "") : c.startPosition checkpoint = .trimHorizon := by
  show c.start.position checkpoint = _
  rw [StartOptions.position_of_no_checkpoint _ hc, h.start]
  rfl

theorem validate_of_drawn {id : Nat} {n : ConfigDraw → Nat}
    (hn : ∀ i, ((validConfig id).range i).lo.toNat ≤ n i ∧ n i ≤ ((validConfig id).range i).hi.toNat)
    (h : Drawn id n c) : c.validate = .ok () := by
  have hthrottle : 200 ≤ n .throttleDelay := (hn .throttleDelay).1
  have hcommit : 1 ≤ n .commitFrequency := (hn .commitFrequency).1
  have hshard : 1 ≤ n .shardCheckFrequency := (hn .shardCheckFrequency).1
  have hbuffer : 1 ≤ n .bufferSize := (hn .bufferSize).1
  have hread : 1 ≤ n .checkpointReadCapacity := (hn .checkpointReadCapacity).1
  have hwrite : 1 ≤ n .checkpointWriteCapacity := (hn .checkpointWriteCapacity).1
  rw [validate_eq_ok_iff]
  intro r
  cases r with
  | throttleDelayFloor => simp only [Rule.Broken, h.throttleDelay]; omega
  | commitFrequencyPositive => simp only [Rule.Broken, h.commitFrequency]; omega
  | shardCheckFrequencyPositive => simp only [Rule.Broken, h.shardCheckFrequency]; omega
  | leaderActionFrequencyPositive => simp only [Rule.Broken, h.leaderActionFrequency]; omega
  | shardCheckWithinLeaderAction =>
    simp only [Rule.Broken, h.shardCheckFrequency, h.leaderActionFrequency]
    omega
  | bufferSizePositive => simp only [Rule.Broken, h.bufferSize]; omega
  | statsPresent => simp [Rule.Broken, h.stats, standard]
  | checkpointCapacitiesPositive =>
    simp only [Rule.Broken, h.checkpointReadCapacity, h.checkpointWriteCapacity]
    omega
  | loggerPresent => simp [Rule.Broken, h.logger, standard]

theorem validate_of_makes {id : Nat} (h : (validConfig id).Makes c) : c.validate = .ok () := by
  obtain ⟨n, hn, hdrawn⟩ := (validConfig_computes id).exists_of_makes h
  exact validate_of_drawn hn hdrawn

end Config

/-! ### Every generator on its side -/

open Generator

/-- Every generated value stands on its side of validation.  A delay below the floor is refused on every configuration.
On every valid configuration the delays above the floor, the positive durations and the ordered frequencies are
accepted, and the inverted frequencies are refused; the two frequencies may be set in either order.  Every drawn
configuration is valid, starts at the oldest record without a checkpoint, and stays valid whatever is chosen for the
start and the checkpoint waiter.  And every generated value is the exact function of its draws, from ranges that meet at
the floor. -/
theorem generators_keep_their_sides :
    (∀ delay, subFloorThrottleDelay.Makes delay →
      ∀ c : Config, (c.set (.throttleDelay delay)).validate = .error .throttleDelayTooShort) ∧
    (∀ c : Config, c.validate = .ok () →
      (∀ delay, validThrottleDelay.Makes delay → (c.set (.throttleDelay delay)).validate = .ok ()) ∧
      (∀ frequency, positiveDuration.Makes frequency → (c.set (.commitFrequency frequency)).validate = .ok ()) ∧
      (∀ p, orderedFrequencies.Makes p → ∀ chain, chain = p.changes ∨ chain = p.changes.reverse →
        (c.applyAll chain).validate = .ok ()) ∧
      (∀ p, invertedFrequencies.Makes p → ∀ chain, chain = p.changes ∨ chain = p.changes.reverse →
        (c.applyAll chain).validate = .error .leaderActionFrequencyTooShort)) ∧
    (∀ id c, (validConfig id).Makes c →
      c.validate = .ok () ∧
      (∀ checkpoint, checkpoint = none ∨ checkpoint = some "" → c.startPosition checkpoint = .trimHorizon) ∧
      ∀ chain : List Change,
        (∀ change ∈ chain, (∃ choice, change = .set (.start choice)) ∨
          ∃ delay, change = .set (.checkpointWaiterDelay delay)) →
        (c.applyAll chain).validate = .ok ()) ∧
    ((subFloorThrottleDelay.range ()).hi.toNat + 1 = minThrottleDelay.totalNanos ∧
      1000000 * (validThrottleDelay.range ()).lo.toNat = minThrottleDelay.totalNanos) ∧
    subFloorThrottleDelay.Computes (fun n delay => delay.totalNanos = n ()) ∧
    validThrottleDelay.Computes (fun n delay => delay.totalNanos = 1000000 * n ()) ∧
    positiveDuration.Computes (fun n d => d.totalNanos = 1000000 * n ()) ∧
    orderedFrequencies.Computes (fun n p =>
      p.shardCheck.totalNanos = 1000000 * n .smaller ∧
        p.leaderAction.totalNanos = 1000000 * (n .smaller + n .gap)) ∧
    invertedFrequencies.Computes (fun n p =>
      p.leaderAction.totalNanos = 1000000 * n .smaller ∧
        p.shardCheck.totalNanos = 1000000 * (n .smaller + n .gap)) ∧
    startMode.Computes (fun n m => m.index = n ()) ∧
    timestamp.Computes (fun n t => t.secs = n () ∧ t.nanos = 0) ∧
    sequenceNumber.Computes (fun n s =>
      s.length = n .length ∧
        ∀ position : Fin 56, position < n .length →
          s.toList[position.val]? = some (Nat.digitChar (n (.digit position)))) ∧
    ∀ id, (validConfig id).Computes (Drawn id) := by
  refine ⟨fun delay hd c => ?_, fun c hc => ⟨fun delay hd => ?_, fun frequency hf => ?_, fun p hp chain hchain => ?_,
    fun p hp chain hchain => ?_⟩, fun id c hmakes => ?_, ⟨succ_hi_subFloorThrottleDelay, lo_validThrottleDelay⟩,
    subFloorThrottleDelay_computes, validThrottleDelay_computes, positiveDuration_computes,
    orderedFrequencies_computes, invertedFrequencies_computes, startMode_computes, timestamp_computes,
    sequenceNumber_computes, validConfig_computes⟩
  · exact c.validate_set_throttleDelay_of_lt (totalNanos_lt_of_subFloorThrottleDelay hd)
  · exact Config.validate_set_throttleDelay_of_le hc (le_totalNanos_of_validThrottleDelay hd)
  · exact Config.validate_set_commitFrequency hc (totalNanos_ne_zero_of_positiveDuration hf)
  · rw [c.applyAll_changes hchain]
    exact Config.validate_ordered hc (bounds_of_orderedFrequencies hp)
  · rw [c.applyAll_changes hchain]
    exact Config.validate_inverted hc (bounds_of_invertedFrequencies hp)
  · obtain ⟨n, hn, hdrawn⟩ := (validConfig_computes id).exists_of_makes hmakes
    have hvalid : c.validate = .ok () := Config.validate_of_drawn hn hdrawn
    refine ⟨hvalid, fun checkpoint => Config.startPosition_of_drawn hdrawn, fun chain hchain => ?_⟩
    rw [c.validate_applyAll_of_unchecked hchain, hvalid]

/-- At the ends of the ranges: one nanosecond below the floor and the floor itself, two equal frequencies, two that are a
millisecond apart, and the configuration of the lowest draws with a start and a waiter delay chosen later. -/
theorem generators_keep_their_sides_at_the_ends :
    let c := Config.testing 4
    let below : Duration := { secs := 0, nanos := 199999999 }
    let floor : Duration := { secs := 0, nanos := 200000000 }
    let short : Duration := { secs := 0, nanos := 1000000 }
    let equal : Frequencies := { shardCheck := short, leaderAction := short }
    let apart : Frequencies := { shardCheck := { secs := 0, nanos := 2000000 }, leaderAction := short }
    let drawn := (validConfig 7).value fun i => ((validConfig 7).range i).lo
    let chain : List Change := [.set (.start (.afterSequenceNumber "5")), .set (.checkpointWaiterDelay .zero)]
    c.validate = .ok () ∧
      (c.set (.throttleDelay below)).validate = .error .throttleDelayTooShort ∧
      (c.set (.throttleDelay floor)).validate = .ok () ∧
      (c.set (.commitFrequency short)).validate = .ok () ∧
      (c.applyAll equal.changes).validate = .ok () ∧
      (c.applyAll apart.changes.reverse).validate = .error .leaderActionFrequencyTooShort ∧
      drawn.startPosition (some "") = .trimHorizon ∧
      (drawn.applyAll chain).validate = .ok () := by
  intro c below floor short equal apart drawn chain
  have hc : c.validate = .ok () := rfl
  obtain ⟨hbelow, hbase, hdrawn, -⟩ := generators_keep_their_sides
  obtain ⟨hfloor, hshort, hequal, hapart⟩ := hbase c hc
  obtain ⟨-, hstart, hchain⟩ := hdrawn 7 drawn (validConfig 7).makes_lowest
  refine ⟨hc, hbelow below subFloorThrottleDelay.makes_highest c, hfloor floor validThrottleDelay.makes_lowest,
    hshort short positiveDuration.makes_lowest, hequal equal orderedFrequencies.makes_lowest _ (Or.inl rfl),
    hapart apart invertedFrequencies.makes_lowest _ (Or.inr rfl), hstart _ (Or.inr rfl),
    hchain chain fun change hchange => ?_⟩
  obtain rfl | rfl : change = .set (.start (.afterSequenceNumber "5")) ∨
      change = .set (.checkpointWaiterDelay .zero) := by simpa [chain] using hchange
  · exact Or.inl ⟨_, rfl⟩
  · exact Or.inr ⟨_, rfl⟩

end StreamConsumer
