import StreamConsumer.Sink.Log
import StreamConsumer.Sink.Stats
import StreamConsumer.Table
import StreamConsumer.Text.Decimal
import StreamConsumer.Text.Form

/-!
# What the sinks remember

The counts and journals of all recording sinks, by the number of the sink.  A sink that was never called has counted
nothing and kept nothing.
-/

namespace StreamConsumer

open Text

structure SinkStore where
  counts : Table Nat Counts
  journals : Table Nat Journal

namespace SinkStore

def empty : SinkStore := { counts := Table.empty, journals := Table.empty }

def countsOf (store : SinkStore) (id : Nat) : Counts := (store.counts.find? id).getD Counts.zero

def journalOf (store : SinkStore) (id : Nat) : Journal := (store.journals.find? id).getD Journal.empty

/-- What a sink has counted, if it counts at all. -/
def counts? (store : SinkStore) (sink : StatsSink) : Option Counts :=
  if sink.kind = .recording then some (store.countsOf sink.id) else none

/-- What a sink has kept, if it keeps anything. -/
def journal? (store : SinkStore) (sink : LogSink) : Option Journal :=
  if sink.kind = .recording then some (store.journalOf sink.id) else none

/-- After a report to a statistics sink. -/
def report (store : SinkStore) (sink : StatsSink) (call : StatsCall) : SinkStore :=
  if sink.kind = .recording then
    { store with counts := store.counts.insert sink.id ((store.countsOf sink.id).record call) }
  else store

/-- A message to a log sink: how the call ends, and the store after it. -/
def log (store : SinkStore) (sink : LogSink) (message : Message) : LogOutcome × SinkStore :=
  match sink.kind with
  | .noop => ({ failed := false, emitted := [] }, store)
  | .tracing => (message.trace, store)
  | .recording =>
    let (failed, journal) := (store.journalOf sink.id).log message
    ({ failed, emitted := [] }, { store with journals := store.journals.insert sink.id journal })

theorem countsOf_report (store : SinkStore) (sink : StatsSink) (call : StatsCall) (id : Nat) :
    (store.report sink call).countsOf id =
      if sink.kind = .recording ∧ id = sink.id then (store.countsOf id).record call else store.countsOf id := by
  by_cases hk : sink.kind = .recording
  · by_cases hi : id = sink.id
    · subst hi
      simp [report, countsOf, hk]
    · simp [report, countsOf, hk, hi]
  · simp [report, hk]

theorem journalOf_log (store : SinkStore) (sink : LogSink) (message : Message) (id : Nat) :
    (store.log sink message).2.journalOf id =
      if sink.kind = .recording ∧ id = sink.id then (store.journalOf id).record message
      else store.journalOf id := by
  cases hk : sink.kind with
  | recording =>
    by_cases hi : id = sink.id
    · subst hi
      simp [log, journalOf, Journal.record, hk]
    · simp [log, journalOf, hk, hi]
  | _ => simp [log, hk]

end SinkStore

/-! ### Texts -/

def Counts.fields (c : Counts) : List (String × Form) :=
  [("checkpoints", .word (digits c.checkpoints.toNat)), ("events_to_client", .word (digits c.eventsToClient.toNat)),
    ("events_from_stream", .word (digits c.eventsFromStream.toNat))]

/-- A value behind a lock; while the lock is held, only its mark can be seen. -/
def Mutex.form {α : Type} (write : α → Form) (m : Mutex α) (held : Bool) : Form :=
  .record "Mutex"
    [("data", if held then .name "<locked>" else write (Guard.recover m.lock).value),
      ("poisoned", .name (if m.poisoned then "true" else "false"))] false

def Journal.form (j : Journal) (held : Bool) : Form := j.kept.form (fun lines => .list (lines.map .quoted)) held

namespace SinkStore

def statsForm (store : SinkStore) (sink : StatsSink) : Form :=
  match store.counts? sink with
  | some counts => .record sink.kind.typeName counts.fields true
  | none => .name sink.kind.typeName

/-- The text of a log sink at a moment at which the sinks with these numbers format a message and hold their locks. -/
def logForm (store : SinkStore) (held : List Nat) (sink : LogSink) : Form :=
  match store.journal? sink with
  | some journal => .record sink.kind.typeName [("lines", journal.form (decide (sink.id ∈ held)))] true
  | none => .name sink.kind.typeName

end SinkStore

end StreamConsumer
