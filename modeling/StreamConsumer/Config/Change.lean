import StreamConsumer.Config.Basic

/-!
# Changes to a configuration

A change sets one option, or a start mode with its companion value, and keeps everything else: a companion value stays
when the mode is changed to one that has no use for it.
-/

namespace StreamConsumer

/-- How the start is chosen anew. -/
inductive StartChoice where
  | atTimestamp (instant : Instant)
  | latest
  /-- Start with new records, and hold a sequence number ready for modes that need one. -/
  | atSequenceNumber (number : String)
  | afterSequenceNumber (number : String)
  | trimHorizon
  deriving DecidableEq

def StartOptions.choose (o : StartOptions) : StartChoice → StartOptions
  | .atTimestamp instant => { o with mode := .atTimestamp, timestamp := some instant }
  | .latest => { o with mode := .latest }
  | .atSequenceNumber number => { o with mode := .latest, sequenceNumber := some number }
  | .afterSequenceNumber number => { o with mode := .afterSequenceNumber, sequenceNumber := some number }
  | .trimHorizon => { o with mode := .trimHorizon }

/-- A new value for an option other than the sinks. -/
inductive Setting where
  | throttleDelay (delay : Duration)
  | commitFrequency (frequency : Duration)
  | shardCheckFrequency (frequency : Duration)
  | leaderActionFrequency (frequency : Duration)
  | bufferSize (size : UInt64)
  | checkpointReadCapacity (capacity : UInt64)
  | checkpointWriteCapacity (capacity : UInt64)
  | checkpointWaiterDelay (delay : Duration)
  | start (choice : StartChoice)
  deriving DecidableEq

inductive Change where
  | set (setting : Setting)
  | stats (sink : Option StatsSink)
  | logger (sink : Option LogSink)
  deriving DecidableEq

namespace Config

def set (c : Config) : Setting → Config
  | .throttleDelay delay => { c with throttleDelay := delay }
  | .commitFrequency frequency => { c with commitFrequency := frequency }
  | .shardCheckFrequency frequency => { c with shardCheckFrequency := frequency }
  | .leaderActionFrequency frequency => { c with leaderActionFrequency := frequency }
  | .bufferSize size => { c with bufferSize := size }
  | .checkpointReadCapacity capacity => { c with checkpointReadCapacity := capacity }
  | .checkpointWriteCapacity capacity => { c with checkpointWriteCapacity := capacity }
  | .checkpointWaiterDelay delay => { c with checkpointWaiterDelay := delay }
  | .start choice => { c with start := c.start.choose choice }

def apply (c : Config) : Change → Config
  | .set setting => c.set setting
  | .stats sink => { c with stats := sink }
  | .logger sink => { c with logger := sink }

/-- All changes of a chain, first to last. -/
def applyAll (c : Config) (chain : List Change) : Config := chain.foldl apply c

theorem applyAll_cons (c : Config) (change : Change) (chain : List Change) :
    c.applyAll (change :: chain) = (c.apply change).applyAll chain := rfl

end Config

end StreamConsumer
