import StreamConsumer.Config.Change
import StreamConsumer.Generator.Delay

/-!
# Generated configurations

Configurations that keep every rule: all delays, sizes and capacities are drawn, the sinks and the start are the defaults.
-/

namespace StreamConsumer

/-- What is drawn for a configuration; the gap is how much slower the leader action is than the shard check. -/
inductive ConfigDraw where
  | throttleDelay
  | commitFrequency
  | shardCheckFrequency
  | gap
  | bufferSize
  | checkpointReadCapacity
  | checkpointWriteCapacity
  | checkpointWaiterDelay
  deriving DecidableEq

namespace Generator

/-- The settings of a drawn configuration. -/
def drawnSettings (draws : ConfigDraw → UInt64) : List Setting :=
  [.throttleDelay (.ofMillis (draws .throttleDelay)),
    .commitFrequency (.ofMillis (draws .commitFrequency)),
    .shardCheckFrequency (.ofMillis (draws .shardCheckFrequency)),
    .leaderActionFrequency (.ofMillis (draws .shardCheckFrequency + draws .gap)),
    .bufferSize (draws .bufferSize),
    .checkpointReadCapacity (draws .checkpointReadCapacity),
    .checkpointWriteCapacity (draws .checkpointWriteCapacity),
    .checkpointWaiterDelay (.ofMillis (draws .checkpointWaiterDelay))]

/-- The sinks of the configurations have the number `id`. -/
def validConfig (id : Nat) : Generator ConfigDraw Config where
  range
    | .throttleDelay => throttleMillis
    | .commitFrequency => positiveMillis
    | .shardCheckFrequency => positiveMillis
    | .gap => hourMillis
    | .bufferSize => { lo := 1, hi := 100000 }
    | .checkpointReadCapacity => { lo := 1, hi := 40000 }
    | .checkpointWriteCapacity => { lo := 1, hi := 40000 }
    | .checkpointWaiterDelay => { lo := 0, hi := 60000 }
  value draws := (Config.standard id).applyAll ((drawnSettings draws).map .set)

end Generator

namespace Quantity

variable (id : Nat)

def configThrottleDelay : Quantity (Generator.validConfig id) Duration :=
  { measure := Config.throttleDelay, draw := .throttleDelay, reach := Duration.millisUp }

def configCommitFrequency : Quantity (Generator.validConfig id) Duration :=
  { measure := Config.commitFrequency, draw := .commitFrequency, reach := Duration.millisUp }

def configShardCheckFrequency : Quantity (Generator.validConfig id) Duration :=
  { measure := Config.shardCheckFrequency, draw := .shardCheckFrequency, reach := Duration.millisUp }

def configGap : Quantity (Generator.validConfig id) Duration where
  measure c := c.leaderActionFrequency.excess c.shardCheckFrequency
  draw := .gap
  reach := Duration.millisUp

def configBufferSize : Quantity (Generator.validConfig id) UInt64 :=
  { measure := Config.bufferSize, draw := .bufferSize, reach := UInt64.toNat }

def configReadCapacity : Quantity (Generator.validConfig id) UInt64 :=
  { measure := Config.checkpointReadCapacity, draw := .checkpointReadCapacity, reach := UInt64.toNat }

def configWriteCapacity : Quantity (Generator.validConfig id) UInt64 :=
  { measure := Config.checkpointWriteCapacity, draw := .checkpointWriteCapacity, reach := UInt64.toNat }

def configWaiterDelay : Quantity (Generator.validConfig id) Duration :=
  { measure := Config.checkpointWaiterDelay, draw := .checkpointWaiterDelay, reach := Duration.millisUp }

end Quantity

end StreamConsumer
