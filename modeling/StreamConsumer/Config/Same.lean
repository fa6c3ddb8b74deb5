import StreamConsumer.Config.Basic

/-!
# Comparing configurations

Two configurations are compared option by option, and their sinks by identity.
-/

namespace StreamConsumer

/-- The two options hold the same sink, or none. -/
def sameSink {α : Type} [DecidableEq α] : Option α → Option α → Bool
  | some a, some b => decide (a = b)
  | none, none => true
  | _, _ => false

def Config.same (a b : Config) : Bool :=
  sameSink a.stats b.stats && sameSink a.logger b.logger && decide (a.throttleDelay = b.throttleDelay) &&
    decide (a.commitFrequency = b.commitFrequency) && decide (a.shardCheckFrequency = b.shardCheckFrequency) &&
    decide (a.leaderActionFrequency = b.leaderActionFrequency) && decide (a.bufferSize = b.bufferSize) &&
    decide (a.checkpointReadCapacity = b.checkpointReadCapacity) &&
    decide (a.checkpointWriteCapacity = b.checkpointWriteCapacity) &&
    decide (a.checkpointWaiterDelay = b.checkpointWaiterDelay) && decide (a.start.mode = b.start.mode) &&
    decide (a.start.timestamp = b.start.timestamp) && decide (a.start.sequenceNumber = b.start.sequenceNumber)

end StreamConsumer
