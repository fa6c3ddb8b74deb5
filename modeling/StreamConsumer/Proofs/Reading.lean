import StreamConsumer.Proofs.Chain
import StreamConsumer.Proofs.Validation

/-!
# What rules read and what errors name

A rule reads few options (`Rule.reads`), and only they decide whether it is broken (`Rule.broken_congr`).  An error
names an option (`ConfigError.field`), and the errors have places in the order of the rules (`ConfigError.place`): no
rule whose error has an earlier place reads the option that an error names (`Rule.option_ne_field`).  So the verdict is
settled by what rules read (`Config.validate_congr`, `Config.validate_applyAll_of_unread`).
-/

namespace StreamConsumer

/-- The name under which errors speak of an option; the two capacities of the checkpoint store share one. -/
def Field.option : Field → String
  | stats => "stats"
  | logger => "logger"
  | throttleDelay => "throttle_delay"
  | commitFrequency => "commit_frequency"
  | shardCheckFrequency => "shard_check_frequency"
  | leaderActionFrequency => "leader_action_frequency"
  | bufferSize => "buffer_size"
  | checkpointReadCapacity | checkpointWriteCapacity => "checkpoint_capacity"
  | checkpointWaiterDelay => "checkpoint_waiter_delay"
  | startMode => "start_mode"
  | timestamp => "at_timestamp"
  | sequenceNumber => "sequence_number"

/-- The place of an error in the order of the rules. -/
def ConfigError.place (e : ConfigError) : Nat := ofRules.idxOf e

namespace Rule

theorem error_mem_ofRules (r : Rule) : r.error ∈ ConfigError.ofRules := by cases r <;> decide

/-- The places of the errors follow the numbers of the rules; two rules share a place if they share an error. -/
theorem place_lt_place_iff (r r' : Rule) :
    r.error.place < r'.error.place ↔ r.number < r'.number ∧ r.error ≠ r'.error := by
  cases r <;> cases r' <;> decide

theorem error_eq_of_place_eq {r r' : Rule} : r.error.place = r'.error.place → r.error = r'.error := by
  cases r <;> cases r' <;> decide

/-! ### Reading -/

/-- The options that decide whether the rule is broken. -/
def reads : Rule → List Field
  | throttleDelayFloor => [.throttleDelay]
  | commitFrequencyPositive => [.commitFrequency]
  | shardCheckFrequencyPositive => [.shardCheckFrequency]
  | leaderActionFrequencyPositive => [.leaderActionFrequency]
  | shardCheckWithinLeaderAction => [.shardCheckFrequency, .leaderActionFrequency]
  | bufferSizePositive => [.bufferSize]
  | statsPresent => [.stats]
  | checkpointCapacitiesPositive => [.checkpointReadCapacity, .checkpointWriteCapacity]
  | loggerPresent => [.logger]

/-- Configurations that agree on what a rule reads break it both or not at all. -/
theorem broken_congr {a b : Config} {r : Rule} (h : ∀ f ∈ r.reads, a.get f = b.get f) : r.Broken a ↔ r.Broken b := by
  cases r with
  | throttleDelayFloor =>
    have hd : a.throttleDelay = b.throttleDelay := h .throttleDelay (by simp [reads])
    simp only [Broken, hd]
  | commitFrequencyPositive =>
    have hd : a.commitFrequency = b.commitFrequency := h .commitFrequency (by simp [reads])
    simp only [Broken, hd]
  | shardCheckFrequencyPositive =>
    have hd : a.shardCheckFrequency = b.shardCheckFrequency := h .shardCheckFrequency (by simp [reads])
    simp only [Broken, hd]
  | leaderActionFrequencyPositive =>
    have hd : a.leaderActionFrequency = b.leaderActionFrequency := h .leaderActionFrequency (by simp [reads])
    simp only [Broken, hd]
  | shardCheckWithinLeaderAction =>
    have hs : a.shardCheckFrequency = b.shardCheckFrequency := h .shardCheckFrequency (by simp [reads])
    have hl : a.leaderActionFrequency = b.leaderActionFrequency := h .leaderActionFrequency (by simp [reads])
    simp only [Broken, hs, hl]
  | bufferSizePositive =>
    have hd : a.bufferSize = b.bufferSize := h .bufferSize (by simp [reads])
    simp only [Broken, hd]
  | statsPresent =>
    have hd : a.stats = b.stats := h .stats (by simp [reads])
    simp only [Broken, hd]
  | checkpointCapacitiesPositive =>
    have hr : a.checkpointReadCapacity = b.checkpointReadCapacity := h .checkpointReadCapacity (by simp [reads])
    have hw : a.checkpointWriteCapacity = b.checkpointWriteCapacity := h .checkpointWriteCapacity (by simp [reads])
    simp only [Broken, hr, hw]
  | loggerPresent =>
    have hd : a.logger = b.logger := h .logger (by simp [reads])
    simp only [Broken, hd]

/-- No rule reads what a choice of the start writes. -/
theorem written?_start (r : Rule) (choice : StartChoice) :
    ∀ f ∈ r.reads, (Change.set (.start choice)).written? f = none := by
  cases r <;> cases choice <;> simp [reads, Change.written?, Setting.written?, StartChoice.written?]

theorem written?_checkpointWaiterDelay (r : Rule) (delay : Duration) :
    ∀ f ∈ r.reads, (Change.set (.checkpointWaiterDelay delay)).written? f = none := by
  cases r <;> simp [reads, Change.written?, Setting.written?]

/-- A rule with an earlier error does not read the option that an error names. -/
theorem option_ne_field {r r' : Rule} (h : r.error.place < r'.error.place) {f : Field} (hf : f ∈ r.reads) :
    f.option ≠ r'.error.field := by
  revert h
  cases r <;> cases r' <;> revert f <;> decide

end Rule

/-! ### The verdict -/

namespace Config

/-- Configurations that break the same rules have the same verdict. -/
theorem validate_congr {a b : Config} (h : ∀ r : Rule, r.Broken a ↔ r.Broken b) : a.validate = b.validate := by
  have hp : (fun r : Rule => decide (r.Broken a)) = fun r => decide (r.Broken b) :=
    funext fun r => decide_eq_decide.2 (h r)
  rw [validate_eq_verdict, validate_eq_verdict, Rule.firstBroken?, Rule.firstBroken?, hp]

/-- Changes that write nothing that a rule reads leave the verdict as it was. -/
theorem validate_applyAll_of_unread (c : Config) {chain : List Change}
    (h : ∀ change ∈ chain, ∀ r : Rule, ∀ f ∈ r.reads, change.written? f = none) :
    (c.applyAll chain).validate = c.validate := by
  refine validate_congr fun r => Rule.broken_congr fun f hf => ?_
  exact c.get_applyAll_of_unwritten fun change hc => h change hc r f hf

end Config

end StreamConsumer
