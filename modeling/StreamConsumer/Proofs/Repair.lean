import Mathlib.Data.List.Perm.Subperm
import StreamConsumer.Proofs.Reading

/-!
# Repairs

A rejected configuration is repaired by new values for the option that the error names, and validated again.  A repair
may break a rule, but only one whose error comes later (`Repair.place_lt`): the rules of the reported error hold by the
choice of the values, and earlier rules do not read what was changed.  So the places of the reported errors grow, and
after at most eight repairs the configuration is valid (`repairs_end_valid`).
-/

namespace StreamConsumer

/-- The second configuration gives the option a value that a repair of the first may choose. -/
def Field.Admissible (c c' : Config) : Field → Prop
  | throttleDelay => 200000000 ≤ c'.throttleDelay.totalNanos
  | commitFrequency => c'.commitFrequency.totalNanos ≠ 0
  | shardCheckFrequency => c'.shardCheckFrequency.totalNanos ≠ 0
  | leaderActionFrequency =>
    c'.leaderActionFrequency.totalNanos ≠ 0 ∧ c.shardCheckFrequency.totalNanos ≤ c'.leaderActionFrequency.totalNanos
  | bufferSize => c'.bufferSize.toNat ≠ 0
  | stats => c'.stats.isSome
  | logger => c'.logger.isSome
  | checkpointReadCapacity =>
    c'.checkpointReadCapacity.toNat ≠ 0 ∧
      (c.checkpointReadCapacity.toNat ≠ 0 → c'.checkpointReadCapacity = c.checkpointReadCapacity)
  | checkpointWriteCapacity =>
    c'.checkpointWriteCapacity.toNat ≠ 0 ∧
      (c.checkpointWriteCapacity.toNat ≠ 0 → c'.checkpointWriteCapacity = c.checkpointWriteCapacity)
  | checkpointWaiterDelay | startMode | timestamp | sequenceNumber => True

/-- The second configuration comes from the first by links that write only what the error names, and what the error
names has admissible values in it. -/
structure Repair (e : ConfigError) (c c' : Config) : Prop where
  changed : ∃ chain : List Link,
    (∀ link ∈ chain, ∀ f, (link.written? f).isSome → f.option = e.field) ∧ c' = c.followAll chain
  admissible : ∀ f : Field, f.option = e.field → f.Admissible c c'

/-- Validation and repair in turn: the errors that were reported, and the configuration in the end. -/
inductive Repairs : Config → List ConfigError → Config → Prop
  | done (c : Config) : Repairs c [] c
  | repair {c c' last : Config} {e : ConfigError} {es : List ConfigError} (hv : c.validate = .error e)
      (h : Repair e c c') (rest : Repairs c' es last) : Repairs c (e :: es) last

/-! ### One repair -/

namespace Repair

variable {e : ConfigError} {c c' : Config}

theorem get_eq (h : Repair e c c') {f : Field} (hf : f.option ≠ e.field) : c'.get f = c.get f := by
  obtain ⟨chain, hchain, rfl⟩ := h.changed
  refine c.get_followAll_of_unwritten fun link hl => ?_
  rw [← Option.not_isSome_iff_eq_none]
  exact fun hw => hf (hchain link hl f hw)

/-- The rules of the reported error are kept after the repair. -/
theorem not_broken {r : Rule} (h : Repair r.error c c') : ¬ r.Broken c' := by
  cases r with
  | throttleDelayFloor => exact Nat.not_lt.2 (h.admissible .throttleDelay rfl)
  | commitFrequencyPositive => exact h.admissible .commitFrequency rfl
  | shardCheckFrequencyPositive => exact h.admissible .shardCheckFrequency rfl
  | leaderActionFrequencyPositive => exact (h.admissible .leaderActionFrequency rfl).1
  | shardCheckWithinLeaderAction =>
    -- the bound was chosen for the old shard check frequency, which is also the new one
    have hs : c'.shardCheckFrequency = c.shardCheckFrequency := h.get_eq (f := .shardCheckFrequency) (by decide)
    have hl := (h.admissible .leaderActionFrequency rfl).2
    simp only [Rule.Broken, hs]
    exact Nat.not_lt.2 hl
  | bufferSizePositive => exact h.admissible .bufferSize rfl
  | statsPresent => exact Option.ne_none_iff_isSome.2 (h.admissible .stats rfl)
  | checkpointCapacitiesPositive =>
    have hr := (h.admissible .checkpointReadCapacity rfl).1
    have hw := (h.admissible .checkpointWriteCapacity rfl).1
    exact not_or.2 ⟨hr, hw⟩
  | loggerPresent => exact Option.ne_none_iff_isSome.2 (h.admissible .logger rfl)

/-- Every rule that is broken after the repair has an error with a later place. -/
theorem place_lt (h : Repair e c c') (hv : c.validate = .error e) {r : Rule} (hr : r.Broken c') :
    e.place < r.error.place := by
  obtain ⟨r₀, ⟨-, hfirst⟩, rfl⟩ := (c.validate_eq_error_iff e).1 hv
  rcases Nat.lt_trichotomy r.error.place r₀.error.place with hlt | heq | hgt
  · -- an earlier rule was kept before, and it does not read what was changed
    have hkept : ¬ r.Broken c := hfirst r ((r.place_lt_place_iff r₀).1 hlt).1
    have hcongr : r.Broken c' ↔ r.Broken c :=
      Rule.broken_congr fun f hf => h.get_eq (Rule.option_ne_field hlt hf)
    exact absurd (hcongr.1 hr) hkept
  · rw [← Rule.error_eq_of_place_eq heq] at h
    exact absurd hr h.not_broken
  · exact hgt

/-- A change of the one option that the error names is a repair if its value is admissible. -/
theorem of_change {change : Change} {f : Field} (hf : ∀ g : Field, g.option = e.field ↔ g = f)
    (hw : ∀ g, (change.written? g).isSome → g = f) (ha : f.Admissible c (c.apply change)) :
    Repair e c (c.apply change) where
  changed := ⟨[.change change], by simpa [Link.written?, hf] using hw, rfl⟩
  admissible g hg := (hf g).1 hg ▸ ha

end Repair

/-! ### Every rejected configuration has a repair -/

namespace Rule

def raised (n : UInt64) : UInt64 := if n = 0 then 1 else n

private theorem raised_admissible (n : UInt64) : (raised n).toNat ≠ 0 ∧ (n.toNat ≠ 0 → raised n = n) := by
  have hz : n = 0 ↔ n.toNat = 0 := UInt64.toNat_inj.symm
  unfold raised
  split
  · next h => exact ⟨by decide, fun hn => absurd (hz.1 h) hn⟩
  · next h => exact ⟨fun hn => h (hz.2 hn), fun _ => rfl⟩

/-- Changes after which the configuration keeps the rule. -/
def remedy (c : Config) : Rule → List Change
  | throttleDelayFloor => [.set (.throttleDelay minThrottleDelay)]
  | commitFrequencyPositive => [.set (.commitFrequency (.ofSecs 1))]
  | shardCheckFrequencyPositive => [.set (.shardCheckFrequency (.ofSecs 1))]
  | leaderActionFrequencyPositive | shardCheckWithinLeaderAction =>
    [.set (.leaderActionFrequency c.shardCheckFrequency)]
  | bufferSizePositive => [.set (.bufferSize 1)]
  | statsPresent => [.stats (some { kind := .noop, id := 0 })]
  | checkpointCapacitiesPositive =>
    [.set (.checkpointReadCapacity (raised c.checkpointReadCapacity)),
      .set (.checkpointWriteCapacity (raised c.checkpointWriteCapacity))]
  | loggerPresent => [.logger (some { kind := .noop, id := 0 })]

theorem option_of_mem_remedy {c : Config} {r : Rule} {change : Change} (h : change ∈ r.remedy c) {f : Field}
    (hf : (change.written? f).isSome) : f.option = r.error.field := by
  cases r <;> simp only [remedy, List.mem_cons, List.not_mem_nil, or_false] at h
  case checkpointCapacitiesPositive =>
    rcases h with rfl | rfl
    all_goals
      cases f <;> simp [Change.written?, Setting.written?] at hf
      rfl
  all_goals
    subst h
    cases f <;> simp [Change.written?, Setting.written?] at hf
    rfl

def remedied (c : Config) (r : Rule) : Config := c.followAll ((r.remedy c).map Link.change)

theorem admissible_remedied {c : Config} {r : Rule} (h : FirstBroken c r) {f : Field}
    (hf : f.option = r.error.field) : f.Admissible c (remedied c r) := by
  -- of the pairs of a rule and an option, those are left where the error names the option
  cases r <;> cases f <;> simp [Field.option, error, ConfigError.field] at hf
  case throttleDelayFloor.throttleDelay => exact (by decide : 200000000 ≤ minThrottleDelay.totalNanos)
  case commitFrequencyPositive.commitFrequency => exact (by decide : (Duration.ofSecs 1).totalNanos ≠ 0)
  case shardCheckFrequencyPositive.shardCheckFrequency => exact (by decide : (Duration.ofSecs 1).totalNanos ≠ 0)
  case leaderActionFrequencyPositive.leaderActionFrequency =>
    exact ⟨h.2 shardCheckFrequencyPositive (by decide), Nat.le_refl _⟩
  case shardCheckWithinLeaderAction.leaderActionFrequency =>
    exact ⟨h.2 shardCheckFrequencyPositive (by decide), Nat.le_refl _⟩
  case bufferSizePositive.bufferSize => exact (by decide : (1 : UInt64).toNat ≠ 0)
  case statsPresent.stats => rfl
  case checkpointCapacitiesPositive.checkpointReadCapacity => exact raised_admissible c.checkpointReadCapacity
  case checkpointCapacitiesPositive.checkpointWriteCapacity => exact raised_admissible c.checkpointWriteCapacity
  case loggerPresent.logger => rfl

end Rule

theorem exists_repair {c : Config} {e : ConfigError} (hv : c.validate = .error e) : ∃ c', Repair e c c' := by
  obtain ⟨r, hr, rfl⟩ := (c.validate_eq_error_iff e).1 hv
  refine ⟨Rule.remedied c r, ⟨_, fun link hl f hf => ?_, rfl⟩, fun f hf => Rule.admissible_remedied hr hf⟩
  obtain ⟨change, hm, rfl⟩ := List.mem_map.1 hl
  exact Rule.option_of_mem_remedy hm hf

/-! ### Repairs in turn -/

namespace Repairs

variable {c last : Config} {es : List ConfigError}

theorem exists_rule (h : Repairs c es last) : ∀ e ∈ es, ∃ r : Rule, r.error = e := by
  induction h with
  | done c => simp
  | @repair c c' last e es hv _ _ ih =>
    obtain ⟨r, -, he⟩ := (c.validate_eq_error_iff e).1 hv
    simp only [List.mem_cons, forall_eq_or_imp]
    exact ⟨⟨r, he.symm⟩, ih⟩

/-- If every broken rule has an error with a place after `n`, then so have all errors that are reported from there on.
-/
theorem lt_place (h : Repairs c es last) {n : Nat} (hn : ∀ r : Rule, r.Broken c → n < r.error.place) :
    ∀ e ∈ es, n < e.place := by
  induction h with
  | done c => simp
  | @repair c c' last e es hv h _ ih =>
    obtain ⟨r, hr, he⟩ := (c.validate_eq_error_iff e).1 hv
    have hne : n < e.place := he ▸ hn r hr.1
    simp only [List.mem_cons, forall_eq_or_imp]
    exact ⟨hne, ih fun r' hr' => Nat.lt_trans hne (h.place_lt hv hr')⟩

theorem pairwise (h : Repairs c es last) : es.Pairwise fun e e' => e.place < e'.place := by
  induction h with
  | done c => exact .nil
  | repair hv h rest ih => exact .cons (rest.lt_place fun r hr => h.place_lt hv hr) ih

theorem nodup (h : Repairs c es last) : es.Nodup := by
  refine h.pairwise.imp fun hlt heq => ?_
  rw [heq] at hlt
  exact Nat.lt_irrefl _ hlt

theorem get_eq (h : Repairs c es last) {f : Field} (hf : ∀ e ∈ es, e.field ≠ f.option) : last.get f = c.get f := by
  induction h with
  | done c => rfl
  | @repair c c' last e es _ h _ ih =>
    simp only [List.mem_cons, forall_eq_or_imp] at hf
    rw [ih hf.2, h.get_eq (Ne.symm hf.1)]

theorem length_le (h : Repairs c es last) : es.length ≤ 8 := by
  have hsub : es ⊆ ConfigError.ofRules := by
    intro e he
    obtain ⟨r, rfl⟩ := h.exists_rule e he
    exact r.error_mem_ofRules
  exact (h.nodup.subperm hsub).length_le

theorem snoc (h : Repairs c es last) {e : ConfigError} {next : Config} (hv : last.validate = .error e)
    (hr : Repair e last next) : Repairs c (es ++ [e]) next := by
  induction h with
  | done c => exact .repair hv hr (.done next)
  | repair hv' h' _ ih => exact .repair hv' h' (ih hv hr)

end Repairs

/-- Whatever values the repairs choose: the reported errors are those of rules, no error is reported twice, the rules of
an error have lower numbers than the rules of every later one, there are at most eight repairs, after the last possible
one the configuration is valid, and an option that no reported error names still has its first value. -/
theorem repairs_end_valid {c last : Config} {es : List ConfigError} (h : Repairs c es last) :
    (∀ e ∈ es, ∃ r : Rule, r.error = e) ∧ es.Nodup ∧
      (es.Pairwise fun e e' => ∀ r r' : Rule, r.error = e → r'.error = e' → r.number < r'.number) ∧
      es.length ≤ 8 ∧
      (last.validate = .ok () ∨ es.length < 8 ∧ ∃ e next, last.validate = .error e ∧ Repair e last next) ∧
      ∀ f : Field, (∀ e ∈ es, e.field ≠ f.option) → last.get f = c.get f := by
  refine ⟨h.exists_rule, h.nodup, ?_, h.length_le, ?_, fun f => h.get_eq⟩
  · refine h.pairwise.imp ?_
    rintro e e' hlt r r' rfl rfl
    exact ((r.place_lt_place_iff r').1 hlt).1
  · cases hv : last.validate with
    | ok _ => exact Or.inl rfl
    | error e =>
      obtain ⟨next, hr⟩ := exists_repair hv
      have hle := (h.snoc hv hr).length_le
      rw [List.length_append, List.length_singleton] at hle
      exact Or.inr ⟨hle, e, next, rfl, hr⟩

/-- A shard check frequency of two minutes, chosen to repair one of zero, exceeds the leader action frequency, which is
then reported though it was right at first. -/
theorem repairs_end_valid_after_new_violation :
    let first := (Config.standard 0).applyAll [.set (.throttleDelay .zero), .set (.shardCheckFrequency .zero)]
    let second := first.apply (.set (.throttleDelay (.ofMillis 200)))
    let third := second.apply (.set (.shardCheckFrequency (.ofSecs 120)))
    let last := third.apply (.set (.leaderActionFrequency (.ofSecs 121)))
    let es : List ConfigError := [.throttleDelayTooShort, .shardCheckFrequencyZero, .leaderActionFrequencyTooShort]
    Repairs first es last ∧ es.Nodup ∧ last.validate = .ok () ∧ last.bufferSize = first.bufferSize := by
  intro first second third last es
  have h1 : Repair .throttleDelayTooShort first second :=
    .of_change (f := .throttleDelay) (fun g => by cases g <;> decide)
      (fun g => by cases g <;> simp [Change.written?, Setting.written?])
      (by decide : 200000000 ≤ (Duration.ofMillis 200).totalNanos)
  have h2 : Repair .shardCheckFrequencyZero second third :=
    .of_change (f := .shardCheckFrequency) (fun g => by cases g <;> decide)
      (fun g => by cases g <;> simp [Change.written?, Setting.written?])
      (by decide : (Duration.ofSecs 120).totalNanos ≠ 0)
  have hlonger : (Duration.ofSecs 120).totalNanos ≤ (Duration.ofSecs 121).totalNanos := by decide
  have h3 : Repair .leaderActionFrequencyTooShort third last :=
    .of_change (f := .leaderActionFrequency) (fun g => by cases g <;> decide)
      (fun g => by cases g <;> simp [Change.written?, Setting.written?])
      ⟨(by decide : (Duration.ofSecs 121).totalNanos ≠ 0), hlonger⟩
  have h : Repairs first es last := .repair rfl h1 (.repair rfl h2 (.repair rfl h3 (.done last)))
  obtain ⟨-, hnodup, -, -, -, hkept⟩ := repairs_end_valid h
  exact ⟨h, hnodup, rfl, hkept .bufferSize (by decide)⟩

end StreamConsumer
