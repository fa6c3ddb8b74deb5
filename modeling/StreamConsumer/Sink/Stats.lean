import StreamConsumer.Sink.Emission
import StreamConsumer.Time.Difference

/-!
# Statistics sinks

A consumer reports three things to its statistics sink: a checkpoint was written, an event reached the client, events
came from the stream.  A recording sink counts them (`Counts.record`), a metrics sink sends them out
(`StatsCall.emissions`), the others do nothing.  A sink is one of its kind with a number of its own, and two sinks are
the same only if both agree.
-/

namespace StreamConsumer

inductive StatsKind where
  | noop
  /-- A sink that leaves every report at its default, which does nothing. -/
  | passive
  | metrics
  | recording
  deriving DecidableEq

def StatsKind.typeName : StatsKind → String
  | noop => "NoopStatReceiver"
  | passive => "EmptyStats"
  | metrics => "MetricsStatReceiver"
  | recording => "RecordingStatReceiver"

/-- One statistics sink. -/
structure StatsSink where
  kind : StatsKind
  id : Nat
  deriving DecidableEq

/-- A report to a statistics sink. -/
inductive StatsCall where
  | checkpoint
  /-- An event that entered the stream at one instant and was retrieved at the other reached the client. -/
  | eventToClient (inserted retrieved : Instant)
  /-- So many events came from a shard, whose newest record is that far ahead. -/
  | eventsFromStream (count : UInt64) (shard : String) (lag : Duration)

/-! ### Counting -/

/-- What a recording sink has counted, in 64 bits that wrap around. -/
structure Counts where
  checkpoints : UInt64
  eventsToClient : UInt64
  eventsFromStream : UInt64
  deriving DecidableEq

namespace Counts

def zero : Counts := { checkpoints := 0, eventsToClient := 0, eventsFromStream := 0 }

def record (c : Counts) : StatsCall → Counts
  | .checkpoint => { c with checkpoints := c.checkpoints + 1 }
  | .eventToClient _ _ => { c with eventsToClient := c.eventsToClient + 1 }
  | .eventsFromStream count _ _ => { c with eventsFromStream := c.eventsFromStream + count }

end Counts

/-! ### Sending out -/

namespace Metric

def checkpoints : String := "shardline_checkpoints_total"

def eventDelivery : String := "shardline_event_delivery_seconds"

def eventsReceived : String := "shardline_events_received_total"

def shardLag : String := "shardline_shard_lag_seconds"

/-- The labels of a metric that is kept for each shard. -/
def shardLabels (shard : String) : List (String × String) := [("shard_id", shard)]

end Metric

/-- What a metrics sink sends out for a report. -/
def StatsCall.emissions : StatsCall → List Emission
  | checkpoint => [.increment Metric.checkpoints [] 1]
  | eventToClient inserted retrieved => [.observe Metric.eventDelivery [] (inserted.delayTo retrieved).seconds]
  | eventsFromStream count shard lag =>
    [.increment Metric.eventsReceived (Metric.shardLabels shard) count,
      .set Metric.shardLag (Metric.shardLabels shard) lag.seconds]

namespace StatsCall

@[simp] theorem emissions_checkpoint : checkpoint.emissions = [.increment "shardline_checkpoints_total" [] 1] := rfl

@[simp] theorem emissions_eventToClient (inserted retrieved : Instant) : (eventToClient inserted retrieved).emissions =
    [.observe "shardline_event_delivery_seconds" []
      ((inserted.delayTo retrieved).secs.toFloat + (inserted.delayTo retrieved).nanos.toFloat / 1e9)] := rfl

@[simp] theorem emissions_eventsFromStream (count : UInt64) (shard : String) (lag : Duration) :
    (eventsFromStream count shard lag).emissions =
      [.increment "shardline_events_received_total" [("shard_id", shard)] count,
        .set "shardline_shard_lag_seconds" [("shard_id", shard)] (lag.secs.toFloat + lag.nanos.toFloat / 1e9)] := rfl

end StatsCall

def StatsKind.emissions (kind : StatsKind) (call : StatsCall) : List Emission :=
  match kind with
  | metrics => call.emissions
  | noop | passive | recording => []

end StreamConsumer
