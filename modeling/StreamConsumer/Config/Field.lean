import StreamConsumer.Config.Change

/-!
# Options one by one

A configuration seen as a value for each of thirteen options, and a change as the options it writes.
-/

namespace StreamConsumer

/-- The options of a configuration; the last three are those that choose the start. -/
inductive Field where
  | stats
  | logger
  | throttleDelay
  | commitFrequency
  | shardCheckFrequency
  | leaderActionFrequency
  | bufferSize
  | checkpointReadCapacity
  | checkpointWriteCapacity
  | checkpointWaiterDelay
  | startMode
  | timestamp
  | sequenceNumber
  deriving DecidableEq

/-- What an option holds. -/
def Field.Value : Field → Type
  | stats => Option StatsSink
  | logger => Option LogSink
  | throttleDelay | commitFrequency | shardCheckFrequency | leaderActionFrequency | checkpointWaiterDelay => Duration
  | bufferSize | checkpointReadCapacity | checkpointWriteCapacity => UInt64
  | startMode => StartMode
  | timestamp => Option Instant
  | sequenceNumber => Option String

/-- The value of one option. -/
def Config.get (c : Config) : (f : Field) → f.Value
  | .stats => c.stats
  | .logger => c.logger
  | .throttleDelay => c.throttleDelay
  | .commitFrequency => c.commitFrequency
  | .shardCheckFrequency => c.shardCheckFrequency
  | .leaderActionFrequency => c.leaderActionFrequency
  | .bufferSize => c.bufferSize
  | .checkpointReadCapacity => c.checkpointReadCapacity
  | .checkpointWriteCapacity => c.checkpointWriteCapacity
  | .checkpointWaiterDelay => c.checkpointWaiterDelay
  | .startMode => c.start.mode
  | .timestamp => c.start.timestamp
  | .sequenceNumber => c.start.sequenceNumber

/-- The value that a new choice of the start writes into an option, if it writes that option. -/
def StartChoice.written? : StartChoice → (f : Field) → Option f.Value
  | atTimestamp _, .startMode => some StartMode.atTimestamp
  | atTimestamp instant, .timestamp => some (some instant)
  | latest, .startMode => some StartMode.latest
  | atSequenceNumber _, .startMode => some StartMode.latest
  | atSequenceNumber number, .sequenceNumber => some (some number)
  | afterSequenceNumber _, .startMode => some StartMode.afterSequenceNumber
  | afterSequenceNumber number, .sequenceNumber => some (some number)
  | trimHorizon, .startMode => some StartMode.trimHorizon
  | _, _ => none

/-- The value that a setting writes into an option, if it writes that option. -/
def Setting.written? : Setting → (f : Field) → Option f.Value
  | throttleDelay delay, .throttleDelay => some delay
  | commitFrequency frequency, .commitFrequency => some frequency
  | shardCheckFrequency frequency, .shardCheckFrequency => some frequency
  | leaderActionFrequency frequency, .leaderActionFrequency => some frequency
  | bufferSize size, .bufferSize => some size
  | checkpointReadCapacity capacity, .checkpointReadCapacity => some capacity
  | checkpointWriteCapacity capacity, .checkpointWriteCapacity => some capacity
  | checkpointWaiterDelay delay, .checkpointWaiterDelay => some delay
  | start choice, f => choice.written? f
  | _, _ => none

/-- The value that a change writes into an option, if it writes that option. -/
def Change.written? : Change → (f : Field) → Option f.Value
  | set setting, f => setting.written? f
  | stats sink, .stats => some sink
  | logger sink, .logger => some sink
  | _, _ => none

/-- Configurations that agree on every option are equal. -/
theorem Config.eq_of_get_eq {a b : Config} (h : ∀ f, a.get f = b.get f) : a = b := by
  obtain ⟨_, _, _, _, _, _, _, _, _, _, ⟨_, _, _⟩⟩ := a
  obtain ⟨_, _, _, _, _, _, _, _, _, _, ⟨_, _, _⟩⟩ := b
  have h1 := h .stats
  have h2 := h .logger
  have h3 := h .throttleDelay
  have h4 := h .commitFrequency
  have h5 := h .shardCheckFrequency
  have h6 := h .leaderActionFrequency
  have h7 := h .bufferSize
  have h8 := h .checkpointReadCapacity
  have h9 := h .checkpointWriteCapacity
  have h10 := h .checkpointWaiterDelay
  have h11 := h .startMode
  have h12 := h .timestamp
  have h13 := h .sequenceNumber
  simp only [Config.get] at h1 h2 h3 h4 h5 h6 h7 h8 h9 h10 h11 h12 h13
  simp [*]

/-- A change sets the options that it writes and keeps the others. -/
theorem Config.get_apply (c : Config) (change : Change) (f : Field) :
    (c.apply change).get f = (change.written? f).getD (c.get f) := by
  cases change with
  | set setting =>
    cases setting with
    | start choice => cases choice <;> cases f <;> rfl
    | _ => cases f <;> rfl
  | stats sink => cases f <;> rfl
  | logger sink => cases f <;> rfl

end StreamConsumer
