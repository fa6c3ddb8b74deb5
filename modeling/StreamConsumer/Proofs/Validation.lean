import StreamConsumer.Config.Rule

/-!
# The first broken rule

Validation reports the broken rule with the least number and accepts exactly the configurations that break none
(`validate_eq_error_iff_first_broken`).  The checks compare two-part durations; the rules speak of exact nanoseconds.
-/

namespace StreamConsumer

namespace Rule

/-- The place of a rule in the order of the checks. -/
def number : Rule → Nat
  | throttleDelayFloor => 1
  | commitFrequencyPositive => 2
  | shardCheckFrequencyPositive => 3
  | leaderActionFrequencyPositive => 4
  | shardCheckWithinLeaderAction => 5
  | bufferSizePositive => 6
  | statsPresent => 7
  | checkpointCapacitiesPositive => 8
  | loggerPresent => 9

theorem mem_all (r : Rule) : r ∈ all := by cases r <;> decide

theorem pairwise_all : all.Pairwise fun r r' => r.number < r'.number := by decide

theorem error_ne_unknownStartMode (r : Rule) (name : String) : r.error ≠ .unknownStartMode name := by
  cases r <;> simp [error]

/-- The configuration breaks this rule and keeps every rule before it. -/
def FirstBroken (c : Config) (r : Rule) : Prop := r.Broken c ∧ ∀ r' : Rule, r'.number < r.number → ¬ r'.Broken c

def firstBroken? (c : Config) : Option Rule := all.find? fun r => decide (r.Broken c)

theorem firstBroken?_eq_none_iff (c : Config) : firstBroken? c = none ↔ ∀ r : Rule, ¬ r.Broken c := by
  simp only [firstBroken?, List.find?_eq_none, decide_eq_true_eq]
  exact ⟨fun h r => h r (mem_all r), fun h r _ => h r⟩

/-- A search in a list with growing numbers finds the member with the least number. -/
private theorem find?_eq_some_iff_of_pairwise {p : Rule → Bool} {rules : List Rule}
    (h : rules.Pairwise fun r r' => r.number < r'.number) {r : Rule} :
    rules.find? p = some r ↔ r ∈ rules ∧ p r ∧ ∀ r' ∈ rules, r'.number < r.number → ¬ p r' := by
  induction rules with
  | nil => simp
  | cons r₀ rules ih =>
    obtain ⟨h₀, h⟩ := List.pairwise_cons.1 h
    by_cases hp : p r₀
    · rw [List.find?_cons_of_pos hp, Option.some.injEq]
      constructor
      · rintro rfl
        refine ⟨List.mem_cons_self, hp, fun r' hr' hlt => ?_⟩
        rcases List.mem_cons.1 hr' with rfl | hr'
        · omega
        · have := h₀ r' hr'
          omega
      · rintro ⟨hr, -, hleast⟩
        rcases List.mem_cons.1 hr with rfl | hr
        · rfl
        · exact absurd hp (hleast r₀ List.mem_cons_self (h₀ r hr))
    · rw [List.find?_cons_of_neg hp, ih h]
      constructor
      · rintro ⟨hr, hpr, hleast⟩
        refine ⟨List.mem_cons_of_mem _ hr, hpr, fun r' hr' => ?_⟩
        rcases List.mem_cons.1 hr' with rfl | hr'
        · exact fun _ => hp
        · exact hleast r' hr'
      · rintro ⟨hr, hpr, hleast⟩
        rcases List.mem_cons.1 hr with rfl | hr
        · exact absurd hpr hp
        · exact ⟨hr, hpr, fun r' hr' => hleast r' (List.mem_cons_of_mem _ hr')⟩

theorem firstBroken?_eq_some_iff (c : Config) (r : Rule) : firstBroken? c = some r ↔ FirstBroken c r := by
  rw [firstBroken?, find?_eq_some_iff_of_pairwise pairwise_all]
  simp only [decide_eq_true_eq]
  exact ⟨fun h => ⟨h.2.1, fun r' => h.2.2 r' (mem_all r')⟩, fun h => ⟨mem_all r, h.1, fun r' _ => h.2 r'⟩⟩

/-- What is said of a configuration whose first broken rule is this one. -/
def verdict : Option Rule → Except ConfigError Unit
  | none => .ok ()
  | some r => .error r.error

private theorem verdict_find?_cons (c : Config) (r : Rule) (rules : List Rule) :
    verdict ((r :: rules).find? fun r => decide (r.Broken c)) =
      if r.Broken c then .error r.error else verdict (rules.find? fun r => decide (r.Broken c)) := by
  rw [List.find?_cons]
  by_cases h : r.Broken c <;> simp [h, verdict]

end Rule

/-! ### The checks -/

namespace Config

theorem throttleDelay_lt_iff (c : Config) :
    c.throttleDelay < minThrottleDelay ↔ c.throttleDelay.totalNanos < 200000000 := by
  rw [Duration.lt_iff_totalNanos_lt, minThrottleDelay, Duration.totalNanos_ofMillis]
  exact Iff.rfl

/-- Validation reports the first rule that is broken. -/
theorem validate_eq_verdict (c : Config) : c.validate = Rule.verdict (Rule.firstBroken? c) := by
  have hb : c.bufferSize = 0 ↔ c.bufferSize.toNat = 0 := UInt64.toNat_inj.symm
  have hr : c.checkpointReadCapacity = 0 ↔ c.checkpointReadCapacity.toNat = 0 := UInt64.toNat_inj.symm
  have hw : c.checkpointWriteCapacity = 0 ↔ c.checkpointWriteCapacity.toNat = 0 := UInt64.toNat_inj.symm
  -- the search as a chain of tests in the order of the rules
  simp only [Rule.firstBroken?, Rule.all, Rule.verdict_find?_cons, List.find?_nil]
  simp only [Rule.Broken, Rule.error, Rule.verdict]
  simp only [validate, throttleDelay_lt_iff, Duration.isZero_iff, hb, hr, hw, Option.isNone_iff_eq_none]
  simp only [Duration.lt_iff_totalNanos_lt]

theorem validate_eq_ok_iff (c : Config) : c.validate = .ok () ↔ ∀ r : Rule, ¬ r.Broken c := by
  rw [validate_eq_verdict, ← Rule.firstBroken?_eq_none_iff]
  cases Rule.firstBroken? c <;> simp [Rule.verdict]

theorem validate_eq_error_iff (c : Config) (e : ConfigError) :
    c.validate = .error e ↔ ∃ r, Rule.FirstBroken c r ∧ e = r.error := by
  simp only [validate_eq_verdict, ← Rule.firstBroken?_eq_some_iff]
  cases Rule.firstBroken? c with
  | none => simp [Rule.verdict]
  | some r => simp [Rule.verdict, eq_comm]

end Config

/-- A configuration is accepted exactly if it breaks no rule, and rejected exactly with the error of the broken rule that
has the least number; no rule reports an unknown start mode. -/
theorem validate_eq_error_iff_first_broken (c : Config) :
    (c.validate = .ok () ↔ ∀ r : Rule, ¬ r.Broken c) ∧
      (∀ e, c.validate = .error e ↔
        ∃ r : Rule, r.Broken c ∧ (∀ r' : Rule, r'.number < r.number → ¬ r'.Broken c) ∧ e = r.error) ∧
      ∀ name, c.validate ≠ .error (.unknownStartMode name) := by
  refine ⟨c.validate_eq_ok_iff, fun e => ?_, fun name h => ?_⟩
  · rw [c.validate_eq_error_iff]
    simp only [Rule.FirstBroken, and_assoc]
  · obtain ⟨r, -, hr⟩ := (c.validate_eq_error_iff _).1 h
    exact r.error_ne_unknownStartMode name hr.symm

end StreamConsumer
