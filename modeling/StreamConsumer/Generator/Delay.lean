import StreamConsumer.Config.Validate
import StreamConsumer.Generator.Basic

/-!
# Generated delays and frequencies

Durations in whole units on either side of the throttle floor, positive durations, and pairs of a shard check and a leader
action frequency in either order.
-/

namespace StreamConsumer

namespace Duration

/-- The least number of whole units of so many nanoseconds that make up the duration. -/
def unitsUp (unit : Nat) (d : Duration) : Nat := (d.totalNanos + (unit - 1)) / unit

/-- The least number of whole milliseconds that make up the duration. -/
def millisUp (d : Duration) : Nat := d.unitsUp 1000000

theorem millisUp_le_iff (d : Duration) (n : Nat) : d.millisUp ≤ n ↔ d.totalNanos ≤ 1000000 * n := by
  unfold millisUp unitsUp
  omega

/-- The number of whole milliseconds in the duration. -/
def wholeMillis (d : Duration) : Nat := d.totalNanos / 1000000

end Duration

namespace Generator

/-! ### Single durations -/

/-- The number as a word; the largest word stands for every number that is too large. -/
def word (n : Nat) : UInt64 := if n < UInt64.size then .ofNat n else .ofNat (UInt64.size - 1)

/-- Delays below the throttle floor, in nanoseconds. -/
def subFloorThrottleDelay : Generator Unit Duration where
  range _ := { lo := 0, hi := word minThrottleDelay.totalNanos - 1 }
  value draws := .ofNanos (draws ())

/-- The milliseconds from the throttle floor to ten seconds. -/
def throttleMillis : Range := { lo := word minThrottleDelay.wholeMillis, hi := 10000 }

/-- The milliseconds of a positive duration up to an hour. -/
def positiveMillis : Range := { lo := 1, hi := 3600000 }

/-- The milliseconds of a duration up to an hour. -/
def hourMillis : Range := { lo := 0, hi := 3600000 }

def validThrottleDelay : Generator Unit Duration where
  range _ := throttleMillis
  value draws := .ofMillis (draws ())

def positiveDuration : Generator Unit Duration where
  range _ := positiveMillis
  value draws := .ofMillis (draws ())

/-! ### Pairs of frequencies -/

/-- A shard check and a leader action frequency. -/
structure Frequencies where
  shardCheck : Duration
  leaderAction : Duration
  deriving DecidableEq

/-- The smaller of two frequencies, and how much larger the other one is. -/
inductive FrequencyDraw where
  | smaller
  | gap
  deriving DecidableEq

/-- Pairs in which the shard check is slower than the leader action. -/
def invertedFrequencies : Generator FrequencyDraw Frequencies where
  range
    | .smaller => positiveMillis
    | .gap => positiveMillis
  value draws :=
    { shardCheck := .ofMillis (draws .smaller + draws .gap), leaderAction := .ofMillis (draws .smaller) }

/-- Pairs in which the shard check is not slower than the leader action. -/
def orderedFrequencies : Generator FrequencyDraw Frequencies where
  range
    | .smaller => positiveMillis
    | .gap => hourMillis
  value draws :=
    { shardCheck := .ofMillis (draws .smaller), leaderAction := .ofMillis (draws .smaller + draws .gap) }

end Generator

namespace Quantity

open Generator

def subFloorThrottleDelay : Quantity Generator.subFloorThrottleDelay Duration :=
  { measure := id, draw := (), reach := Duration.totalNanos }

def validThrottleDelay : Quantity Generator.validThrottleDelay Duration :=
  { measure := id, draw := (), reach := Duration.millisUp }

def positiveDuration : Quantity Generator.positiveDuration Duration :=
  { measure := id, draw := (), reach := Duration.millisUp }

def invertedLeaderAction : Quantity invertedFrequencies Duration :=
  { measure := Frequencies.leaderAction, draw := .smaller, reach := Duration.millisUp }

def invertedGap : Quantity invertedFrequencies Duration :=
  { measure := fun f => f.shardCheck.excess f.leaderAction, draw := .gap, reach := Duration.millisUp }

def orderedShardCheck : Quantity orderedFrequencies Duration :=
  { measure := Frequencies.shardCheck, draw := .smaller, reach := Duration.millisUp }

def orderedGap : Quantity orderedFrequencies Duration :=
  { measure := fun f => f.leaderAction.excess f.shardCheck, draw := .gap, reach := Duration.millisUp }

end Quantity

end StreamConsumer
