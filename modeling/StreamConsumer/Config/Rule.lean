import StreamConsumer.Config.Validate

/-!
# The rules of a safe configuration

The nine rules one by one, as statements about exact numbers: lengths of time in nanoseconds, sizes and capacities as
natural numbers.
-/

namespace StreamConsumer

inductive Rule where
  | throttleDelayFloor
  | commitFrequencyPositive
  | shardCheckFrequencyPositive
  | leaderActionFrequencyPositive
  | shardCheckWithinLeaderAction
  | bufferSizePositive
  | statsPresent
  | checkpointCapacitiesPositive
  | loggerPresent
  deriving DecidableEq

namespace Rule

/-- The rules in the order in which they are checked. -/
def all : List Rule :=
  [throttleDelayFloor, commitFrequencyPositive, shardCheckFrequencyPositive, leaderActionFrequencyPositive,
    shardCheckWithinLeaderAction, bufferSizePositive, statsPresent, checkpointCapacitiesPositive, loggerPresent]

/-- The configuration breaks the rule. -/
def Broken (c : Config) : Rule → Prop
  | throttleDelayFloor => c.throttleDelay.totalNanos < 200000000
  | commitFrequencyPositive => c.commitFrequency.totalNanos = 0
  | shardCheckFrequencyPositive => c.shardCheckFrequency.totalNanos = 0
  | leaderActionFrequencyPositive => c.leaderActionFrequency.totalNanos = 0
  | shardCheckWithinLeaderAction => c.leaderActionFrequency.totalNanos < c.shardCheckFrequency.totalNanos
  | bufferSizePositive => c.bufferSize.toNat = 0
  | statsPresent => c.stats = none
  | checkpointCapacitiesPositive => c.checkpointReadCapacity.toNat = 0 ∨ c.checkpointWriteCapacity.toNat = 0
  | loggerPresent => c.logger = none

instance (c : Config) : DecidablePred (Broken c) := fun r => by
  cases r <;> unfold Broken <;> infer_instance

/-- What is reported of a configuration that breaks the rule. -/
def error : Rule → ConfigError
  | throttleDelayFloor => .throttleDelayTooShort
  | commitFrequencyPositive => .commitFrequencyZero
  | shardCheckFrequencyPositive => .shardCheckFrequencyZero
  | leaderActionFrequencyPositive | shardCheckWithinLeaderAction => .leaderActionFrequencyTooShort
  | bufferSizePositive => .bufferSizeZero
  | statsPresent => .statsMissing
  | checkpointCapacitiesPositive => .checkpointCapacityZero
  | loggerPresent => .loggerMissing

end Rule

end StreamConsumer
