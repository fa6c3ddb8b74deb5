/-!
# What sinks send out

The calls that reach the metrics and the tracing facade.
-/

namespace StreamConsumer

inductive Emission where
  /-- A counter grows. -/
  | increment (metric : String) (labels : List (String × String)) (amount : UInt64)
  /-- A gauge is set. -/
  | set (metric : String) (labels : List (String × String)) (value : Float)
  /-- A histogram takes one more value. -/
  | observe (metric : String) (labels : List (String × String)) (value : Float)
  /-- A line is traced. -/
  | event (level target message : String)

end StreamConsumer
