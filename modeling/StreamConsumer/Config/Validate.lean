import StreamConsumer.Config.Basic

/-!
# Validation

A configuration is safe to run if it keeps nine rules.  `Config.validate` checks them in a fixed order and reports the
first one that is broken.
-/

namespace StreamConsumer

/-- The shortest throttle delay that spares the stream. -/
def minThrottleDelay : Duration := .ofMillis 200

namespace Config

def validate (c : Config) : Except ConfigError Unit :=
  if c.throttleDelay < minThrottleDelay then .error .throttleDelayTooShort
  else if c.commitFrequency.isZero then .error .commitFrequencyZero
  else if c.shardCheckFrequency.isZero then .error .shardCheckFrequencyZero
  else if c.leaderActionFrequency.isZero then .error .leaderActionFrequencyTooShort
  else if c.leaderActionFrequency < c.shardCheckFrequency then .error .leaderActionFrequencyTooShort
  else if c.bufferSize = 0 then .error .bufferSizeZero
  else if c.stats.isNone then .error .statsMissing
  else if c.checkpointReadCapacity = 0 ∨ c.checkpointWriteCapacity = 0 then .error .checkpointCapacityZero
  else if c.logger.isNone then .error .loggerMissing
  else .ok ()

end Config

end StreamConsumer
