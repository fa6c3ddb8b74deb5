import StreamConsumer.Text.Form

/-!
# What can be wrong with a configuration

One constructor for each cause, with the option it blames and the message that reports it.
-/

namespace StreamConsumer

open Text

inductive ConfigError where
  | throttleDelayTooShort
  | commitFrequencyZero
  | shardCheckFrequencyZero
  /-- The leader action frequency is zero or below the shard check frequency. -/
  | leaderActionFrequencyTooShort
  | bufferSizeZero
  | statsMissing
  | checkpointCapacityZero
  | loggerMissing
  /-- No start mode has this name. -/
  | unknownStartMode (name : String)
  deriving DecidableEq

namespace ConfigError

/-- The name of the cause. -/
def kind : ConfigError → String
  | throttleDelayTooShort => "InvalidThrottleDelay"
  | commitFrequencyZero => "InvalidCommitFrequency"
  | shardCheckFrequencyZero => "InvalidShardCheckFrequency"
  | leaderActionFrequencyTooShort => "InvalidLeaderActionFrequency"
  | bufferSizeZero => "InvalidBufferSize"
  | statsMissing => "InvalidStats"
  | checkpointCapacityZero => "InvalidCheckpointCapacity"
  | loggerMissing => "InvalidLogger"
  | unknownStartMode _ => "UnknownStartMode"

/-- The option to change. -/
def field : ConfigError → String
  | throttleDelayTooShort => "throttle_delay"
  | commitFrequencyZero => "commit_frequency"
  | shardCheckFrequencyZero => "shard_check_frequency"
  | leaderActionFrequencyTooShort => "leader_action_frequency"
  | bufferSizeZero => "buffer_size"
  | statsMissing => "stats"
  | checkpointCapacityZero => "checkpoint_capacity"
  | loggerMissing => "logger"
  | unknownStartMode _ => "start_mode"

def message : ConfigError → String
  | throttleDelayTooShort => "config has invalid throttle delay: must be at least 200ms"
  | commitFrequencyZero => "config has invalid commit frequency: must be greater than zero"
  | shardCheckFrequencyZero => "config has invalid shard check frequency: must be greater than zero"
  | leaderActionFrequencyTooShort =>
    "config has invalid leader action frequency: must be greater than zero and not less than the shard check frequency"
  | bufferSizeZero => "config has invalid buffer size: must be greater than zero"
  | statsMissing => "config has invalid stats receiver: a receiver is required"
  | checkpointCapacityZero =>
    "config has invalid checkpoint store capacity: read and write capacity must be greater than zero"
  | loggerMissing => "config has invalid logger: a logger is required"
  | unknownStartMode name => "unknown stream start mode '" ++ name ++ "'"

/-- The causes that hold nothing else, in the order of the rules they report. -/
def ofRules : List ConfigError :=
  [throttleDelayTooShort, commitFrequencyZero, shardCheckFrequencyZero, leaderActionFrequencyTooShort, bufferSizeZero,
    statsMissing, checkpointCapacityZero, loggerMissing]

/-- The error with this name of its cause; only an unknown start mode holds the text. -/
def ofKind? (kind text : String) : Option ConfigError :=
  (ofRules ++ [unknownStartMode text]).find? fun e => e.kind == kind

def form (e : ConfigError) : Form :=
  match e with
  | unknownStartMode name => .record e.kind [("name", .quoted name)] true
  | _ => .name e.kind

end ConfigError

end StreamConsumer
