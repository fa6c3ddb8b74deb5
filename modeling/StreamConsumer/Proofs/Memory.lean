import Mathlib.Algebra.Ring.Nat
import StreamConsumer.Sink.Store

/-!
# What recording sinks remember of a list of calls

Each of the three counters holds a number of calls, or a sum over calls, modulo 2^64, so that the order of the calls has
no effect on them.  A message is kept whole or not at all (`Journal.log_eq`), so the lines are the formatted messages in
order, and the mark of a failure is there once a message has failed.
-/

namespace StreamConsumer

/-! ### Counters -/

namespace StatsCall

def isCheckpoint : StatsCall → Bool
  | checkpoint => true
  | _ => false

def isEventToClient : StatsCall → Bool
  | eventToClient _ _ => true
  | _ => false

/-- The number of events that the report says came from the stream. -/
def streamed : StatsCall → Nat
  | eventsFromStream count _ _ => count.toNat
  | _ => 0

end StatsCall

namespace Counts

/-- A counter that every report adds an amount to ends at the sum of the amounts. -/
private theorem toNat_foldl_record {read : Counts → UInt64} {amount : StatsCall → Nat}
    (h : ∀ c call, (read (c.record call)).toNat = ((read c).toNat + amount call) % 2 ^ 64) (c : Counts)
    (calls : List StatsCall) :
    (read (calls.foldl record c)).toNat = ((read c).toNat + (calls.map amount).sum) % 2 ^ 64 := by
  induction calls generalizing c with
  | nil => exact (Nat.mod_eq_of_lt (read c).toNat_lt).symm
  | cons call calls ih =>
    rw [List.foldl_cons, ih, h, List.map_cons, List.sum_cons, Nat.mod_add_mod, Nat.add_assoc]

theorem sum_map_toNat (p : StatsCall → Bool) (calls : List StatsCall) :
    (calls.map fun call => (p call).toNat).sum = calls.countP p := by
  induction calls with
  | nil => rfl
  | cons call calls ih =>
    rw [List.map_cons, List.sum_cons, ih, List.countP_cons]
    cases p call <;> simp [Nat.add_comm]

private theorem toNat_add_zero_mod (n : UInt64) : n.toNat = (n.toNat + 0) % 2 ^ 64 :=
  (Nat.mod_eq_of_lt n.toNat_lt).symm

theorem toNat_checkpoints_foldl (c : Counts) (calls : List StatsCall) :
    (calls.foldl record c).checkpoints.toNat =
      (c.checkpoints.toNat + calls.countP StatsCall.isCheckpoint) % 2 ^ 64 := by
  rw [← sum_map_toNat]
  refine toNat_foldl_record (fun c call => ?_) c calls
  cases call with
  | checkpoint => exact UInt64.toNat_add _ _
  | _ => exact toNat_add_zero_mod _

theorem toNat_eventsToClient_foldl (c : Counts) (calls : List StatsCall) :
    (calls.foldl record c).eventsToClient.toNat =
      (c.eventsToClient.toNat + calls.countP StatsCall.isEventToClient) % 2 ^ 64 := by
  rw [← sum_map_toNat]
  refine toNat_foldl_record (fun c call => ?_) c calls
  cases call with
  | eventToClient inserted retrieved => exact UInt64.toNat_add _ _
  | _ => exact toNat_add_zero_mod _

theorem toNat_eventsFromStream_foldl (c : Counts) (calls : List StatsCall) :
    (calls.foldl record c).eventsFromStream.toNat =
      (c.eventsFromStream.toNat + (calls.map StatsCall.streamed).sum) % 2 ^ 64 := by
  refine toNat_foldl_record (fun c call => ?_) c calls
  cases call with
  | eventsFromStream count shard lag => exact UInt64.toNat_add _ _
  | _ => exact toNat_add_zero_mod _

/-- The counters tell how many of these reports there are of each kind, and how many events came from the stream. -/
structure Tally (c : Counts) (calls : List StatsCall) : Prop where
  checkpoints : c.checkpoints.toNat = calls.countP StatsCall.isCheckpoint % 2 ^ 64
  eventsToClient : c.eventsToClient.toNat = calls.countP StatsCall.isEventToClient % 2 ^ 64
  eventsFromStream : c.eventsFromStream.toNat = (calls.map StatsCall.streamed).sum % 2 ^ 64

theorem tally_foldl_zero (calls : List StatsCall) : (calls.foldl record zero).Tally calls where
  checkpoints := (toNat_checkpoints_foldl zero calls).trans (congrArg (· % 2 ^ 64) (Nat.zero_add _))
  eventsToClient := (toNat_eventsToClient_foldl zero calls).trans (congrArg (· % 2 ^ 64) (Nat.zero_add _))
  eventsFromStream := (toNat_eventsFromStream_foldl zero calls).trans (congrArg (· % 2 ^ 64) (Nat.zero_add _))

/-- The order of the reports has no effect on the counters. -/
theorem foldl_record_perm (c : Counts) {calls calls' : List StatsCall} (h : calls.Perm calls') :
    calls.foldl record c = calls'.foldl record c := by
  have h1 : (calls.foldl record c).checkpoints = (calls'.foldl record c).checkpoints := by
    rw [← UInt64.toNat_inj, toNat_checkpoints_foldl, toNat_checkpoints_foldl, h.countP_eq]
  have h2 : (calls.foldl record c).eventsToClient = (calls'.foldl record c).eventsToClient := by
    rw [← UInt64.toNat_inj, toNat_eventsToClient_foldl, toNat_eventsToClient_foldl, h.countP_eq]
  have h3 : (calls.foldl record c).eventsFromStream = (calls'.foldl record c).eventsFromStream := by
    rw [← UInt64.toNat_inj, toNat_eventsFromStream_foldl, toNat_eventsFromStream_foldl, (h.map _).sum_nat]
  show Counts.mk _ _ _ = Counts.mk _ _ _
  rw [h1, h2, h3]

end Counts

/-! ### Lines -/

namespace Message

/-- The text of a message that can be formatted. -/
def line? : Message → Option String
  | text line => some line
  | unformattable _ => none

theorem line?_eq_none_iff (message : Message) : message.line? = none ↔ ∃ written, message = unformattable written := by
  cases message <;> simp [line?]

end Message

namespace Journal

theorem lines_eq (j : Journal) : j.lines = j.kept.value := by rw [lines, Mutex.recover_lock]

/-- A message is kept whole or not at all, whatever has failed before, and the mark is there if it fails. -/
theorem log_eq (j : Journal) (message : Message) :
    j.log message = (message.line?.isNone,
      { kept := { value := j.lines ++ message.line?.toList, poisoned := j.kept.poisoned || message.line?.isNone } }) := by
  rw [lines_eq, log, Mutex.recover_lock]
  cases message <;> simp [Message.format, Message.line?, Guard.drop]

theorem lines_record (j : Journal) (message : Message) : (j.record message).lines = j.lines ++ message.line?.toList := by
  rw [record, log_eq, lines_eq]

theorem lines_foldl (j : Journal) (messages : List Message) :
    (messages.foldl record j).lines = j.lines ++ messages.filterMap Message.line? := by
  induction messages generalizing j with
  | nil => exact (List.append_nil _).symm
  | cons message messages ih =>
    rw [List.foldl_cons, ih, lines_record, List.append_assoc, List.filterMap_cons]
    cases message.line? <;> rfl

theorem lines_foldl_empty (messages : List Message) :
    (messages.foldl record empty).lines = messages.filterMap Message.line? := by
  rw [lines_foldl]
  rfl

/-- A sink that starts without the mark of a failure bears it exactly if a message has failed. -/
theorem poisoned_foldl_empty (messages : List Message) :
    (messages.foldl record empty).kept.poisoned = true ↔ ∃ written, .unformattable written ∈ messages := by
  have h : ∀ j : Journal, (messages.foldl record j).kept.poisoned = true ↔
      j.kept.poisoned = true ∨ ∃ message ∈ messages, message.line? = none := by
    induction messages with
    | nil => simp
    | cons message messages ih =>
      intro j
      rw [List.foldl_cons, ih, record, log_eq]
      simp [or_assoc]
  rw [h]
  simp only [Message.line?_eq_none_iff]
  constructor
  · rintro (hnew | ⟨_, hmem, written, rfl⟩)
    · cases hnew
    · exact ⟨written, hmem⟩
  · rintro ⟨written, hmem⟩
    exact Or.inr ⟨_, hmem, written, rfl⟩

end Journal

/-! ### How calls of log sinks end -/

namespace Message

/-- A tracing sink sends a message out whole or not at all. -/
theorem trace_eq (message : Message) : message.trace =
    { failed := message.line?.isNone, emitted := (message.line?.map (.event "INFO" "shardline")).toList } := by
  cases message <;> rfl

end Message

namespace SinkStore

variable (store : SinkStore) (sink : LogSink) (message : Message)

/-- A call fails only if the kind of the sink formats messages and this one cannot be formatted. -/
theorem failed_log : (store.log sink message).1.failed = (sink.kind != .noop && message.line?.isNone) := by
  unfold log
  split <;> simp [Message.trace_eq, Journal.log_eq, *]

theorem emitted_log : (store.log sink message).1.emitted =
    if sink.kind = .tracing then (message.line?.map (.event "INFO" "shardline")).toList else [] := by
  unfold log
  split <;> simp [Message.trace_eq, *]

end SinkStore

end StreamConsumer
