import StreamConsumer.Sink.Log
import StreamConsumer.Sink.Stats
import StreamConsumer.Start.Position

/-!
# Configurations

All options of one consumer of a stream.  Sinks are held by their identity, so that equal configurations share their
sinks.  Every configuration made from scratch gets sinks of its own, numbered by the maker.
-/

namespace StreamConsumer

structure Config where
  stats : Option StatsSink
  logger : Option LogSink
  /-- The pause after a poll that found no records. -/
  throttleDelay : Duration
  /-- The time between checkpoint writes. -/
  commitFrequency : Duration
  /-- The time between looks at the shards of the stream. -/
  shardCheckFrequency : Duration
  /-- The time between actions of the leader. -/
  leaderActionFrequency : Duration
  /-- The records that may wait in the queue. -/
  bufferSize : UInt64
  /-- The provisioned capacities of the checkpoint store. -/
  checkpointReadCapacity : UInt64
  checkpointWriteCapacity : UInt64
  /-- The time between looks at a checkpoint store that is not ready. -/
  checkpointWaiterDelay : Duration
  start : StartOptions
  deriving DecidableEq

/-! ### Defaults -/

namespace Default

def throttleDelay : Duration := .ofMillis 250

def commitFrequency : Duration := .ofMillis 1000

def shardCheckFrequency : Duration := .ofSecs 60

def leaderActionFrequency : Duration := .ofSecs 60

def bufferSize : UInt64 := 100

def checkpointReadCapacity : UInt64 := 10

def checkpointWriteCapacity : UInt64 := 10

def checkpointWaiterDelay : Duration := .ofSecs 3

def startMode : StartMode := .afterSequenceNumber

end Default

namespace Config

/-- Every option at its default; the sinks do nothing and have the number `id`. -/
def standard (id : Nat) : Config where
  stats := some { kind := .noop, id }
  logger := some { kind := .noop, id }
  throttleDelay := Default.throttleDelay
  commitFrequency := Default.commitFrequency
  shardCheckFrequency := Default.shardCheckFrequency
  leaderActionFrequency := Default.leaderActionFrequency
  bufferSize := Default.bufferSize
  checkpointReadCapacity := Default.checkpointReadCapacity
  checkpointWriteCapacity := Default.checkpointWriteCapacity
  checkpointWaiterDelay := Default.checkpointWaiterDelay
  start := { mode := Default.startMode, timestamp := none, sequenceNumber := none }

/-- A valid configuration with the shortest delays that tests can wait for. -/
def testing (id : Nat) : Config :=
  { standard id with
    throttleDelay := .ofMillis 200
    commitFrequency := .ofMillis 10
    shardCheckFrequency := .ofMillis 50
    leaderActionFrequency := .ofMillis 50
    checkpointWaiterDelay := .ofMillis 10 }

end Config

/-- The two recording sinks of one configuration, for reading what it did. -/
structure RecordingSinks where
  stats : StatsSink
  logger : LogSink

def RecordingSinks.numbered (id : Nat) : RecordingSinks :=
  { stats := { kind := .recording, id }, logger := { kind := .recording, id } }

namespace Config

/-- The configuration for tests with these recording sinks. -/
def recording (id : Nat) : Config :=
  { testing id with
    stats := some (RecordingSinks.numbered id).stats, logger := some (RecordingSinks.numbered id).logger }

/-- Where reading of a shard with this checkpoint starts. -/
def startPosition (c : Config) (checkpoint : Option String) : StartPosition := c.start.position checkpoint

end Config

end StreamConsumer
