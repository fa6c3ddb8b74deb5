import StreamConsumer.Sink.Emission
import StreamConsumer.Sink.Lock

/-!
# Log sinks

A recording sink keeps the lines it is given, a tracing sink sends them out, and the one that does nothing never looks at
them.  A message may fail while it is formatted, with a part of its text already written.
-/

namespace StreamConsumer

inductive LogKind where
  | noop
  | tracing
  | recording
  deriving DecidableEq

def LogKind.typeName : LogKind → String
  | noop => "NoopLogger"
  | tracing => "TracingLogger"
  | recording => "RecordingLogger"

/-- One log sink. -/
structure LogSink where
  kind : LogKind
  id : Nat
  deriving DecidableEq

inductive Message where
  | text (line : String)
  /-- A message that fails while it is formatted, after this much of it has been written. -/
  | unformattable (written : String := "")

/-- The text of a message, or what had been written of it when it failed. -/
def Message.format : Message → Except String String
  | text line => .ok line
  | unformattable written => .error written

/-- How the call of a log sink ends: whether it fails, and what it has sent out. -/
structure LogOutcome where
  failed : Bool
  emitted : List Emission

/-- A message in a tracing sink: the line is sent out when all of it is there. -/
def Message.trace (message : Message) : LogOutcome :=
  match message.format with
  | .ok line => { failed := false, emitted := [.event "INFO" "shardline" line] }
  | .error _ => { failed := true, emitted := [] }

/-- What a recording sink has kept. -/
structure Journal where
  kept : Mutex (List String)
  deriving DecidableEq

namespace Journal

def empty : Journal := { kept := .new [] }

/-- A copy of the lines. -/
def lines (j : Journal) : List String := (Guard.recover j.kept.lock).value

/-- A message in a recording sink: whether it fails, and what the sink has kept then.  The lock is held while the message
is formatted, and the line is added when all of it is there; what a failing message has written goes with its guard. -/
def log (j : Journal) (message : Message) : Bool × Journal :=
  let guard := Guard.recover j.kept.lock
  match message.format with
  | .ok line => (false, { kept := { guard with value := guard.value ++ [line] }.drop false })
  | .error _ => (true, { kept := guard.drop true })

def record (j : Journal) (message : Message) : Journal := (j.log message).2

end Journal

end StreamConsumer
