import StreamConsumer.Config.Basic
import StreamConsumer.Sink.Store

/-!
# Texts of configurations

A configuration as a record of all its options, with what its sinks remember.  The text may be made while log sinks hold
their locks, as it is when a configuration is part of a message to its own sink.
-/

namespace StreamConsumer

open Text

namespace SinkStore

def configForm (store : SinkStore) (held : List Nat) (c : Config) : Form :=
  let duration (d : Duration) : Form := .word d.text
  let number (n : UInt64) : Form := .word (digits n.toNat)
  .record "ConsumerConfig"
    [("stats", .optional (c.stats.map store.statsForm)),
      ("logger", .optional (c.logger.map (store.logForm held))),
      ("throttle_delay", duration c.throttleDelay),
      ("commit_frequency", duration c.commitFrequency),
      ("shard_check_frequency", duration c.shardCheckFrequency),
      ("leader_action_frequency", duration c.leaderActionFrequency),
      ("buffer_size", number c.bufferSize),
      ("checkpoint_read_capacity", number c.checkpointReadCapacity),
      ("checkpoint_write_capacity", number c.checkpointWriteCapacity),
      ("checkpoint_waiter_delay", duration c.checkpointWaiterDelay),
      ("start_mode", .name c.start.mode.label),
      ("at_timestamp", .optional (c.start.timestamp.map fun t => .word t.text)),
      ("sequence_number", .optional (c.start.sequenceNumber.map .quoted))] true

def recordingForm (store : SinkStore) (held : List Nat) (sinks : RecordingSinks) : Form :=
  .record "RecordingSinks" [("stats", store.statsForm sinks.stats), ("logger", store.logForm held sinks.logger)] true

end SinkStore

end StreamConsumer
