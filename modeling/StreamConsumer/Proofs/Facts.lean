import StreamConsumer.Proofs.Reading

/-!
# What validation sees

Nine facts of a configuration decide what validation says of it after any chain of changes, and no fewer do
(`validation_sees_nine_facts`).

* Configurations that agree on the facts still agree after the same change (`SameFacts.apply`), and agreement gives
  equal verdicts (`SameFacts.validate_eq`).
* For each fact there is a chain after which the verdict tells it.  A probe (`Rule.probe`) gives every option that a rule
  does not read its default, so that of all rules only those can still be broken that read the same options
  (`Config.validate_probe`).
-/

namespace StreamConsumer

/-- Agreement on the nine facts. -/
structure SameFacts (a b : Config) : Prop where
  throttleDelay : 200000000 ≤ a.throttleDelay.totalNanos ↔ 200000000 ≤ b.throttleDelay.totalNanos
  commitFrequency : a.commitFrequency.totalNanos = 0 ↔ b.commitFrequency.totalNanos = 0
  shardCheckFrequency : a.shardCheckFrequency = b.shardCheckFrequency
  leaderActionFrequency : a.leaderActionFrequency = b.leaderActionFrequency
  bufferSize : a.bufferSize.toNat = 0 ↔ b.bufferSize.toNat = 0
  stats : a.stats.isSome ↔ b.stats.isSome
  checkpointReadCapacity : a.checkpointReadCapacity.toNat = 0 ↔ b.checkpointReadCapacity.toNat = 0
  checkpointWriteCapacity : a.checkpointWriteCapacity.toNat = 0 ↔ b.checkpointWriteCapacity.toNat = 0
  logger : a.logger.isSome ↔ b.logger.isSome

/-! ### The facts decide every verdict -/

/-- Agreement on absence is agreement on presence. -/
private theorem eq_none_iff_congr {α : Type} {x y : Option α} : (x = none ↔ y = none) ↔ (x.isSome ↔ y.isSome) := by
  rw [← Option.not_isSome_iff_eq_none, ← Option.not_isSome_iff_eq_none]
  exact Decidable.not_iff_not

namespace SameFacts

variable {a b : Config}

/-- The same change to both configurations keeps them in agreement. -/
theorem apply (h : SameFacts a b) (change : Change) : SameFacts (a.apply change) (b.apply change) := by
  cases change with
  | set setting =>
    cases setting with
    | throttleDelay delay => exact { h with throttleDelay := Iff.rfl }
    | commitFrequency frequency => exact { h with commitFrequency := Iff.rfl }
    | shardCheckFrequency frequency => exact { h with shardCheckFrequency := rfl }
    | leaderActionFrequency frequency => exact { h with leaderActionFrequency := rfl }
    | bufferSize size => exact { h with bufferSize := Iff.rfl }
    | checkpointReadCapacity capacity => exact { h with checkpointReadCapacity := Iff.rfl }
    | checkpointWriteCapacity capacity => exact { h with checkpointWriteCapacity := Iff.rfl }
    | checkpointWaiterDelay delay => exact { h with }
    | start choice => exact { h with }
  | stats sink => exact { h with stats := Iff.rfl }
  | logger sink => exact { h with logger := Iff.rfl }

theorem applyAll (h : SameFacts a b) (chain : List Change) : SameFacts (a.applyAll chain) (b.applyAll chain) := by
  induction chain generalizing a b with
  | nil => exact h
  | cons change chain ih => exact ih (h.apply change)

theorem broken_iff (h : SameFacts a b) (r : Rule) : r.Broken a ↔ r.Broken b := by
  cases r with
  | throttleDelayFloor =>
    have ht := h.throttleDelay
    simp only [Rule.Broken]
    omega
  | commitFrequencyPositive => exact h.commitFrequency
  | shardCheckFrequencyPositive => simp only [Rule.Broken, h.shardCheckFrequency]
  | leaderActionFrequencyPositive => simp only [Rule.Broken, h.leaderActionFrequency]
  | shardCheckWithinLeaderAction => simp only [Rule.Broken, h.shardCheckFrequency, h.leaderActionFrequency]
  | bufferSizePositive => exact h.bufferSize
  | statsPresent => exact eq_none_iff_congr.2 h.stats
  | checkpointCapacitiesPositive => exact or_congr h.checkpointReadCapacity h.checkpointWriteCapacity
  | loggerPresent => exact eq_none_iff_congr.2 h.logger

theorem validate_eq (h : SameFacts a b) : a.validate = b.validate := Config.validate_congr h.broken_iff

end SameFacts

/-! ### Probes -/

/-- The change that gives the option its default, if a rule reads the option. -/
def Field.reset? : Field → Option Change
  | stats => some (.stats (Config.standard 0).stats)
  | logger => some (.logger (Config.standard 0).logger)
  | throttleDelay => some (.set (.throttleDelay Default.throttleDelay))
  | commitFrequency => some (.set (.commitFrequency Default.commitFrequency))
  | shardCheckFrequency => some (.set (.shardCheckFrequency Default.shardCheckFrequency))
  | leaderActionFrequency => some (.set (.leaderActionFrequency Default.leaderActionFrequency))
  | bufferSize => some (.set (.bufferSize Default.bufferSize))
  | checkpointReadCapacity => some (.set (.checkpointReadCapacity Default.checkpointReadCapacity))
  | checkpointWriteCapacity => some (.set (.checkpointWriteCapacity Default.checkpointWriteCapacity))
  | checkpointWaiterDelay | startMode | timestamp | sequenceNumber => none

theorem Field.written?_of_reset? {f : Field} {change : Change} (h : f.reset? = some change) (g : Field) :
    change.written? g = if g = f then some ((Config.standard 0).get g) else none := by
  cases f <;> simp only [reset?, Option.some.injEq, reduceCtorEq] at h
  all_goals
    subst h
    cases g <;> rfl

theorem Rule.isSome_reset? (r : Rule) : ∀ f ∈ r.reads, f.reset?.isSome := by
  cases r <;> decide

/-- The changes that give their defaults to the options that other rules read and this one does not. -/
def Rule.probe (r : Rule) : List Change :=
  ((all.flatMap reads).filter (· ∉ r.reads)).filterMap Field.reset?

namespace Rule

/-- Every rule reads no option but those of this one, or none of them. -/
def Separate (r : Rule) : Prop := ∀ r' : Rule, (∀ f ∈ r'.reads, f ∈ r.reads) ∨ ∀ f ∈ r'.reads, f ∉ r.reads

/-- Only the two frequencies are read by several rules. -/
theorem eq_or_disjoint {r : Rule} (hs : Field.shardCheckFrequency ∉ r.reads)
    (hl : Field.leaderActionFrequency ∉ r.reads) (r' : Rule) : r' = r ∨ ∀ f ∈ r'.reads, f ∉ r.reads := by
  revert hs hl
  cases r <;> cases r' <;> decide

theorem separate_shardCheckWithinLeaderAction : Separate shardCheckWithinLeaderAction := by
  intro r'
  cases r' <;> decide

theorem exists_mem_reads (r : Rule) : ∃ f, f ∈ r.reads := by
  cases r <;> exact ⟨_, List.mem_cons_self⟩

end Rule

namespace Config

theorem get_applyAll_resets (c : Config) (fields : List Field) (f : Field) :
    (c.applyAll (fields.filterMap Field.reset?)).get f =
      if f ∈ fields ∧ f.reset?.isSome then (standard 0).get f else c.get f := by
  induction fields generalizing c with
  | nil => rfl
  | cons g fields ih =>
    cases hg : g.reset? with
    | none =>
      rw [List.filterMap_cons_none hg, ih]
      by_cases hf : f = g
      · simp [hf, hg]
      · simp [hf]
    | some change =>
      rw [List.filterMap_cons_some hg, applyAll_cons, ih, get_apply, Field.written?_of_reset? hg]
      by_cases hf : f = g
      · simp [hf, hg]
      · simp [hf]

theorem get_probe_of_mem (c : Config) {r : Rule} {f : Field} (hf : f ∈ r.reads) :
    (c.applyAll r.probe).get f = c.get f := by
  rw [Rule.probe, get_applyAll_resets, if_neg]
  simp [hf]

theorem get_probe_of_notMem (c : Config) {r r' : Rule} {f : Field} (hf : f ∉ r.reads) (hf' : f ∈ r'.reads) :
    (c.applyAll r.probe).get f = (standard 0).get f := by
  have hmem : f ∈ Rule.all.flatMap Rule.reads := List.mem_flatMap.2 ⟨r', r'.mem_all, hf'⟩
  rw [Rule.probe, get_applyAll_resets, if_pos ⟨by simp [hmem, hf], r'.isSome_reset? f hf'⟩]

theorem not_broken_standard (r : Rule) : ¬ r.Broken (standard 0) := (standard 0).validate_eq_ok_iff.1 rfl r

/-- After the probe of a separate rule the verdict tells whether the configuration kept the rules that read no more. -/
theorem validate_probe (c : Config) {r : Rule} (hr : r.Separate) :
    (c.applyAll r.probe).validate = .ok () ↔ ∀ r' : Rule, (∀ f ∈ r'.reads, f ∈ r.reads) → ¬ r'.Broken c := by
  have hin : ∀ r' : Rule, (∀ f ∈ r'.reads, f ∈ r.reads) → (r'.Broken (c.applyAll r.probe) ↔ r'.Broken c) :=
    fun r' h => Rule.broken_congr fun f hf => c.get_probe_of_mem (h f hf)
  have hout : ∀ r' : Rule, (∀ f ∈ r'.reads, f ∉ r.reads) → ¬ r'.Broken (c.applyAll r.probe) := by
    intro r' h
    rw [Rule.broken_congr fun f hf => c.get_probe_of_notMem (h f hf) hf]
    exact not_broken_standard r'
  rw [validate_eq_ok_iff]
  constructor
  · intro h r' hr'
    rw [← hin r' hr']
    exact h r'
  · intro h r'
    rcases hr r' with hr' | hr'
    · rw [hin r' hr']
      exact h r' hr'
    · exact hout r' hr'

end Config

/-! ### Every fact is seen -/

/-- No chain tells the configurations apart. -/
def Indistinguishable (a b : Config) : Prop :=
  ∀ chain : List Change, (a.applyAll chain).validate = (b.applyAll chain).validate

namespace Indistinguishable

variable {a b : Config}

theorem apply (h : Indistinguishable a b) (change : Change) : Indistinguishable (a.apply change) (b.apply change) :=
  fun chain => h (change :: chain)

/-- The rules that read no more than a separate one are all kept by both configurations, or by none. -/
private theorem kept_iff (h : Indistinguishable a b) {r : Rule} (hr : r.Separate) :
    (∀ r' : Rule, (∀ f ∈ r'.reads, f ∈ r.reads) → ¬ r'.Broken a) ↔
      ∀ r' : Rule, (∀ f ∈ r'.reads, f ∈ r.reads) → ¬ r'.Broken b := by
  rw [← a.validate_probe hr, ← b.validate_probe hr, h]

/-- A rule that reads neither frequency is broken by both configurations or by none. -/
theorem broken_iff (h : Indistinguishable a b) {r : Rule} (hs : Field.shardCheckFrequency ∉ r.reads)
    (hl : Field.leaderActionFrequency ∉ r.reads) : r.Broken a ↔ r.Broken b := by
  have halone := Rule.eq_or_disjoint hs hl
  have hsep : r.Separate := by
    intro r'
    rcases halone r' with rfl | hr'
    · exact Or.inl fun f hf => hf
    · exact Or.inr hr'
  have hkept : ∀ c : Config, (∀ r' : Rule, (∀ f ∈ r'.reads, f ∈ r.reads) → ¬ r'.Broken c) ↔ ¬ r.Broken c := by
    intro c
    constructor
    · intro hc
      exact hc r fun f hf => hf
    · intro hc r' hr'
      rcases halone r' with rfl | hdisjoint
      · exact hc
      · obtain ⟨f, hf⟩ := r'.exists_mem_reads
        exact absurd (hr' f hf) (hdisjoint f hf)
  exact Decidable.not_iff_not.1 ((hkept a).symm.trans ((h.kept_iff hsep).trans (hkept b)))

/-- Whether the frequencies keep the three rules that read them is the same for both configurations. -/
private theorem frequencies_iff (h : Indistinguishable a b) :
    (a.shardCheckFrequency.totalNanos ≠ 0 ∧
        a.shardCheckFrequency.totalNanos ≤ a.leaderActionFrequency.totalNanos) ↔
      (b.shardCheckFrequency.totalNanos ≠ 0 ∧
        b.shardCheckFrequency.totalNanos ≤ b.leaderActionFrequency.totalNanos) := by
  have hkept : ∀ c : Config,
      (∀ r : Rule, (∀ f ∈ r.reads, f ∈ Rule.shardCheckWithinLeaderAction.reads) → ¬ r.Broken c) ↔
      (c.shardCheckFrequency.totalNanos ≠ 0 ∧
        c.shardCheckFrequency.totalNanos ≤ c.leaderActionFrequency.totalNanos) := by
    intro c
    constructor
    · intro hc
      exact ⟨hc .shardCheckFrequencyPositive (by decide), Nat.not_lt.1 (hc .shardCheckWithinLeaderAction (by decide))⟩
    · rintro ⟨hpos, hle⟩ r hr
      cases r with
      | shardCheckFrequencyPositive => exact hpos
      | leaderActionFrequencyPositive => exact fun h : c.leaderActionFrequency.totalNanos = 0 => hpos (by omega)
      | shardCheckWithinLeaderAction => exact Nat.not_lt.2 hle
      | _ => exact absurd hr (by decide)
  exact (hkept a).symm.trans ((h.kept_iff Rule.separate_shardCheckWithinLeaderAction).trans (hkept b))

private theorem shardCheckFrequency_eq (h : Indistinguishable a b) :
    a.shardCheckFrequency = b.shardCheckFrequency := by
  -- each of the two frequencies is made the leader action frequency of both configurations
  have ha := (h.apply (.set (.leaderActionFrequency a.shardCheckFrequency))).frequencies_iff
  have hb := (h.apply (.set (.leaderActionFrequency b.shardCheckFrequency))).frequencies_iff
  simp only [Config.apply, Config.set] at ha hb
  exact Duration.eq_of_totalNanos_eq (by omega)

private theorem leaderActionFrequency_eq (h : Indistinguishable a b) :
    a.leaderActionFrequency = b.leaderActionFrequency := by
  have ha := (h.apply (.set (.shardCheckFrequency a.leaderActionFrequency))).frequencies_iff
  have hb := (h.apply (.set (.shardCheckFrequency b.leaderActionFrequency))).frequencies_iff
  simp only [Config.apply, Config.set] at ha hb
  exact Duration.eq_of_totalNanos_eq (by omega)

/-- Each capacity is seen once the other one is no longer zero. -/
private theorem capacity_iff (h : Indistinguishable a b) :
    (a.checkpointReadCapacity.toNat = 0 ↔ b.checkpointReadCapacity.toNat = 0) ∧
      (a.checkpointWriteCapacity.toNat = 0 ↔ b.checkpointWriteCapacity.toNat = 0) := by
  have hone : (1 : UInt64).toNat ≠ 0 := by decide
  have hread := (h.apply (.set (.checkpointWriteCapacity 1))).broken_iff (r := .checkpointCapacitiesPositive)
    (by decide) (by decide)
  have hwrite := (h.apply (.set (.checkpointReadCapacity 1))).broken_iff (r := .checkpointCapacitiesPositive)
    (by decide) (by decide)
  simp only [Rule.Broken, Config.apply, Config.set, hone, or_false, false_or] at hread hwrite
  exact ⟨hread, hwrite⟩

theorem sameFacts (h : Indistinguishable a b) : SameFacts a b where
  throttleDelay := by
    have ht := h.broken_iff (r := .throttleDelayFloor) (by decide) (by decide)
    simp only [Rule.Broken] at ht
    omega
  commitFrequency := h.broken_iff (r := .commitFrequencyPositive) (by decide) (by decide)
  shardCheckFrequency := h.shardCheckFrequency_eq
  leaderActionFrequency := h.leaderActionFrequency_eq
  bufferSize := h.broken_iff (r := .bufferSizePositive) (by decide) (by decide)
  stats := eq_none_iff_congr.1 (h.broken_iff (r := .statsPresent) (by decide) (by decide))
  checkpointReadCapacity := h.capacity_iff.1
  checkpointWriteCapacity := h.capacity_iff.2
  logger := eq_none_iff_congr.1 (h.broken_iff (r := .loggerPresent) (by decide) (by decide))

end Indistinguishable

/-- Configurations have equal verdicts after every chain of changes exactly if they agree on the nine facts.  So the
start options, the waiter delay and the choice of the sinks that are attached never count in any of those verdicts. -/
theorem validation_sees_nine_facts (a b : Config) :
    ((∀ chain : List Change, (a.applyAll chain).validate = (b.applyAll chain).validate) ↔ SameFacts a b) ∧
      ∀ (stats : StatsSink → StatsSink) (logger : LogSink → LogSink) (delay : Duration) (start : StartOptions)
        (chain : List Change),
        let c := { a with
          stats := a.stats.map stats, logger := a.logger.map logger, checkpointWaiterDelay := delay, start }
        (c.applyAll chain).validate = (a.applyAll chain).validate := by
  refine ⟨⟨Indistinguishable.sameFacts, fun h chain => (h.applyAll chain).validate_eq⟩, ?_⟩
  intro stats logger delay start chain c
  have hc : SameFacts c a :=
    { throttleDelay := Iff.rfl
      commitFrequency := Iff.rfl
      shardCheckFrequency := rfl
      leaderActionFrequency := rfl
      bufferSize := Iff.rfl
      stats := by simp [c]
      checkpointReadCapacity := Iff.rfl
      checkpointWriteCapacity := Iff.rfl
      logger := by simp [c] }
  exact (hc.applyAll chain).validate_eq

/-- Shard check frequencies that differ by one nanosecond are told apart by a new leader action frequency alone. -/
example :
    let a := (Config.standard 0).apply (.set (.leaderActionFrequency (.ofSecs 120)))
    let b := a.apply (.set (.shardCheckFrequency { secs := 60, nanos := 1 }))
    a.validate = b.validate ∧ (a.apply (.set (.leaderActionFrequency (.ofSecs 60)))).validate = .ok () ∧
      (b.apply (.set (.leaderActionFrequency (.ofSecs 60)))).validate = .error .leaderActionFrequencyTooShort := by
  exact ⟨rfl, rfl, rfl⟩

end StreamConsumer
