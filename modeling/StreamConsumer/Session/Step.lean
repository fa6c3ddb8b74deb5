import StreamConsumer.Config.Change

/-!
# Steps and answers

What can be done with named configurations and named sinks, and what is learned from it.  Configurations, statistics
sinks and log sinks are named apart from each other.
-/

namespace StreamConsumer

/-- What a configuration is made from. -/
inductive Origin where
  | standard
  | testing
  deriving DecidableEq

inductive Step where
  /-- Make a configuration with sinks of its own. -/
  | create (origin : Origin) (target : String)
  /-- Make a configuration for tests with recording sinks, and name the two sinks. -/
  | createRecording (sinks target : String)
  | copy (source target : String)
  | set (source target : String) (setting : Setting)
  /-- Exchange the statistics sink for a named one, or for none. -/
  | attachStats (source target : String) (sink : Option String)
  | attachLogger (source target : String) (sink : Option String)
  | inspect (source : String)
  | validate (source : String)
  | startPosition (source : String) (checkpoint : Option String)
  | compare (first second : String)
  | describe (source : String) (onLines : Bool)
  /-- Name the statistics sink of a configuration. -/
  | takeStats (source sink : String)
  | takeLogger (source sink : String)
  | makeStats (kind : StatsKind) (sink : String)
  | makeLogger (kind : LogKind) (sink : String)
  | report (sink : String) (call : StatsCall)
  | log (sink : String) (message : Message)
  | describeStats (sink : String) (onLines : Bool)
  | describeLogger (sink : String) (onLines : Bool)

namespace Step

/-- The step calls a sink. -/
def isSinkCall : Step → Bool
  | report _ _ | log _ _ => true
  | _ => false

/-- The name of the configuration that the step makes, if it makes one. -/
def target? : Step → Option String
  | create _ target | createRecording _ target | copy _ target => some target
  | set _ target _ | attachStats _ target _ | attachLogger _ target _ => some target
  | _ => none

end Step

inductive Answer where
  | state (config : Config)
  /-- The configuration that was made, and the text of its recording sinks. -/
  | recording (config : Config) (sinks : String)
  | verdict (result : Except ConfigError Unit)
  | position (position : StartPosition)
  | equal (same : Bool)
  | text (text : String)
  /-- The configuration has no such sink. -/
  | noSink
  /-- The names that the sink had before. -/
  | sink (names : List String)
  | reported (emitted : List Emission) (counts : Option Counts)
  | logged (failed : Bool) (emitted : List Emission) (lines : Option (List String))
  /-- A name stands for nothing. -/
  | unbound

end StreamConsumer
