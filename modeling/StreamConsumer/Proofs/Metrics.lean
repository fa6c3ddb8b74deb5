import Mathlib.Algebra.BigOperators.Group.Finset.Piecewise
import StreamConsumer.Proofs.Memory
import StreamConsumer.Proofs.Run

/-!
# The metrics of a history of reports

A history of reports goes to a recording sink and to a metrics sink.  Each report adds to a counter of the one what the
other sends out for it, so after every history the counters are the totals of the metrics, modulo 2^64
(`recording_agrees_with_metrics`).  The metrics that are kept for each shard tell the reports for that shard and no
others.
-/

namespace StreamConsumer

/-! ### Reading what was sent out -/

namespace Emission

/-- What the call adds to a counter, under whatever labels. -/
def amount (metric : String) : Emission → Nat
  | increment name _ amount => if name = metric then amount.toNat else 0
  | _ => 0

def amountUnder (metric : String) (labels : List (String × String)) : Emission → Nat
  | increment name labels' amount => if name = metric ∧ labels' = labels then amount.toNat else 0
  | _ => 0

def isObservation (metric : String) : Emission → Bool
  | observe name _ _ => name == metric
  | _ => false

/-- What the call sets a gauge to under these labels. -/
def setting? (metric : String) (labels : List (String × String)) : Emission → Option Float
  | set name labels' value => if name = metric ∧ labels' = labels then some value else none
  | _ => none

def total (metric : String) (emitted : List Emission) : Nat := (emitted.map (amount metric)).sum

def totalUnder (metric : String) (labels : List (String × String)) (emitted : List Emission) : Nat :=
  (emitted.map (amountUnder metric labels)).sum

def observations (metric : String) (emitted : List Emission) : Nat := emitted.countP (isObservation metric)

/-- The value that a gauge has in the end, if it was ever set. -/
def lastSetting? (metric : String) (labels : List (String × String)) (emitted : List Emission) : Option Float :=
  (emitted.filterMap (setting? metric labels)).getLast?

end Emission

/-! ### Reports for one shard -/

namespace StatsCall

/-- The shard that a report of streamed events is for. -/
def shard? : StatsCall → Option String
  | eventsFromStream _ shard _ => some shard
  | _ => none

/-- The number of events that the report says came from this shard. -/
def streamedFrom (shard : String) : StatsCall → Nat
  | eventsFromStream count shard' _ => if shard' = shard then count.toNat else 0
  | _ => 0

def lagOf? (shard : String) : StatsCall → Option Duration
  | eventsFromStream _ shard' lag => if shard' = shard then some lag else none
  | _ => none

end StatsCall

/-- How far ahead the last report for the shard says it is. -/
def lastLag? (shard : String) (calls : List StatsCall) : Option Duration :=
  (calls.filterMap (StatsCall.lagOf? shard)).getLast?

/-- The events of all shards are those of each shard taken together. -/
theorem sum_streamedFrom {shards : Finset String} {calls : List StatsCall}
    (h : ∀ call ∈ calls, ∀ shard, call.shard? = some shard → shard ∈ shards) :
    ∑ shard ∈ shards, (calls.map (StatsCall.streamedFrom shard)).sum = (calls.map StatsCall.streamed).sum := by
  induction calls with
  | nil => simp
  | cons call calls ih =>
    simp only [List.mem_cons, forall_eq_or_imp] at h
    have hcall : ∑ shard ∈ shards, call.streamedFrom shard = call.streamed := by
      cases call with
      | eventsFromStream count shard lag =>
        have hmem : shard ∈ shards := h.1 shard rfl
        simp [StatsCall.streamedFrom, StatsCall.streamed, Finset.sum_ite_eq, hmem]
      | _ => exact Finset.sum_const_zero
    simp only [List.map_cons, List.sum_cons, Finset.sum_add_distrib, hcall, ih h.2]

/-! ### What the metrics tell of a history -/

section History

variable (calls : List StatsCall) (shard : String)

/-- What every report adds to a total adds up over a history. -/
private theorem sum_map_flatMap {measure : Emission → Nat} {share : StatsCall → Nat}
    (h : ∀ call : StatsCall, (call.emissions.map measure).sum = share call) :
    ((calls.flatMap StatsCall.emissions).map measure).sum = (calls.map share).sum := by
  induction calls with
  | nil => rfl
  | cons call calls ih =>
    rw [List.flatMap_cons, List.map_append, List.sum_append, h, ih, List.map_cons, List.sum_cons]

theorem total_checkpoints :
    Emission.total "shardline_checkpoints_total" (calls.flatMap StatsCall.emissions) =
      calls.countP StatsCall.isCheckpoint := by
  rw [← Counts.sum_map_toNat]
  refine sum_map_flatMap calls fun call => ?_
  cases call <;> simp [Emission.amount, StatsCall.isCheckpoint]

theorem observations_eventDelivery :
    Emission.observations "shardline_event_delivery_seconds" (calls.flatMap StatsCall.emissions) =
      calls.countP StatsCall.isEventToClient := by
  rw [Emission.observations, List.countP_flatMap, ← Counts.sum_map_toNat]
  congr 2
  funext call
  cases call <;> simp [Emission.isObservation, StatsCall.isEventToClient]

theorem total_eventsReceived :
    Emission.total "shardline_events_received_total" (calls.flatMap StatsCall.emissions) =
      (calls.map StatsCall.streamed).sum := by
  refine sum_map_flatMap calls fun call => ?_
  cases call <;> simp [Emission.amount, StatsCall.streamed]

theorem totalUnder_eventsReceived :
    Emission.totalUnder "shardline_events_received_total" [("shard_id", shard)]
        (calls.flatMap StatsCall.emissions) =
      (calls.map (StatsCall.streamedFrom shard)).sum := by
  refine sum_map_flatMap calls fun call => ?_
  cases call <;> simp [Emission.amountUnder, StatsCall.streamedFrom]

theorem lastSetting?_shardLag :
    Emission.lastSetting? "shardline_shard_lag_seconds" [("shard_id", shard)] (calls.flatMap StatsCall.emissions) =
      (lastLag? shard calls).map fun lag => lag.secs.toFloat + lag.nanos.toFloat / 1e9 := by
  -- the values that the gauge was set to are the lags of the reports for the shard
  have hcall : ∀ call : StatsCall,
      call.emissions.filterMap (Emission.setting? "shardline_shard_lag_seconds" [("shard_id", shard)]) =
        ((call.lagOf? shard).map fun lag => lag.secs.toFloat + lag.nanos.toFloat / 1e9).toList := by
    intro call
    cases call with
    | eventsFromStream count shard' lag =>
      by_cases hs : shard' = shard <;>
        simp [Emission.setting?, StatsCall.lagOf?, List.filterMap_cons, hs]
    | _ => rfl
  have hall : (calls.flatMap StatsCall.emissions).filterMap
      (Emission.setting? "shardline_shard_lag_seconds" [("shard_id", shard)]) =
        (calls.filterMap (StatsCall.lagOf? shard)).map fun lag => lag.secs.toFloat + lag.nanos.toFloat / 1e9 := by
    rw [List.filterMap_flatMap, List.map_filterMap, List.filterMap_eq_flatMap_toList]
    simp only [hcall]
  rw [Emission.lastSetting?, lastLag?, hall, List.getLast?_map]

end History

/-! ### Both sinks in one session -/

def reportBoth (first second : String) (call : StatsCall) : List Step := [.report first call, .report second call]

/-- The reports of a history, each to one sink and then to the other. -/
def deliver (first second : String) (calls : List StatsCall) : List Step := calls.flatMap (reportBoth first second)

theorem isSinkCall_of_mem_deliver {first second : String} {calls : List StatsCall} :
    ∀ step ∈ deliver first second calls, step.isSinkCall = true := by
  intro step hstep
  obtain ⟨call, -, h⟩ := List.mem_flatMap.1 hstep
  simp only [reportBoth, List.mem_cons, List.not_mem_nil, or_false] at h
  rcases h with rfl | rfl <;> rfl

namespace Session

variable {s : Session} {name first second : String} {own sink : StatsSink}

theorem emitted_perform_report (h : s.stats.find? name = some sink) (call : StatsCall) :
    (s.perform (.report name call)).1.emitted = sink.kind.emissions call := by
  simp only [perform, report, h, Answer.emitted]

theorem emitted_reports (h : s.stats.find? name = some sink) (calls : List StatsCall) :
    s.emitted (calls.map (.report name)) = calls.flatMap sink.kind.emissions := by
  rw [emitted_of_calls (by simp [Step.isSinkCall]), List.flatMap_map]
  simp only [emitted_perform_report h]

/-- Only the metrics sink sends out what is delivered to both. -/
theorem emitted_deliver (h1 : s.stats.find? first = some own) (ho : own.kind = .recording)
    (h2 : s.stats.find? second = some sink) (hm : sink.kind = .metrics) (calls : List StatsCall) :
    s.emitted (deliver first second calls) = calls.flatMap StatsCall.emissions := by
  have hcall : ∀ call : StatsCall,
      (reportBoth first second call).flatMap (fun step => (s.perform step).1.emitted) = call.emissions := by
    intro call
    simp [reportBoth, emitted_perform_report h1, emitted_perform_report h2, ho, hm, StatsKind.emissions]
  rw [emitted_of_calls isSinkCall_of_mem_deliver, deliver, List.flatMap_assoc]
  simp only [hcall]

theorem reportsTo_deliver (h1 : s.stats.find? first = some own) (h2 : s.stats.find? second = some sink)
    (hne : sink ≠ own) (calls : List StatsCall) : s.reportsTo own (deliver first second calls) = calls := by
  have hcall : ∀ call : StatsCall, (reportBoth first second call).filterMap (s.report? own) = [call] := by
    intro call
    simp [reportBoth, report?, h1, h2, hne]
  rw [reportsTo_of_calls own isSinkCall_of_mem_deliver, deliver, List.filterMap_flatMap]
  simp only [hcall, List.flatMap_singleton']

end Session

/-- A new recording sink and a metrics sink get the same history of reports.  After every history, modulo 2^64, the
three counters of the one are the totals of what the other sends out; the metrics under the label of a shard tell the
reports for that shard alone, and all these labels together tell all events; a report of streamed events raises the
counter before it sets the gauge.  Sinks of the other two kinds send nothing out. -/
theorem recording_agrees_with_metrics {s : Session} {first second : String} {own sink : StatsSink}
    (h1 : s.stats.find? first = some own) (ho : own.kind = .recording)
    (hnew : s.store.counts? own = some Counts.zero) (h2 : s.stats.find? second = some sink)
    (hm : sink.kind = .metrics) (calls : List StatsCall) :
    let emitted := s.emitted (deliver first second calls)
    (∃ counts, (s.after (deliver first second calls)).store.counts? own = some counts ∧
        counts.checkpoints.toNat = Emission.total "shardline_checkpoints_total" emitted % 2 ^ 64 ∧
        counts.eventsToClient.toNat = Emission.observations "shardline_event_delivery_seconds" emitted % 2 ^ 64 ∧
        counts.eventsFromStream.toNat = Emission.total "shardline_events_received_total" emitted % 2 ^ 64) ∧
      (∀ shard, Emission.totalUnder "shardline_events_received_total" [("shard_id", shard)] emitted =
        (calls.map (StatsCall.streamedFrom shard)).sum) ∧
      Emission.total "shardline_events_received_total" emitted =
        ∑ shard ∈ (calls.filterMap StatsCall.shard?).toFinset,
          Emission.totalUnder "shardline_events_received_total" [("shard_id", shard)] emitted ∧
      (∀ shard, Emission.lastSetting? "shardline_shard_lag_seconds" [("shard_id", shard)] emitted =
        (lastLag? shard calls).map fun lag => lag.secs.toFloat + lag.nanos.toFloat / 1e9) ∧
      (∀ front back count shard lag, calls = front ++ .eventsFromStream count shard lag :: back →
        emitted = s.emitted (deliver first second front) ++
          [.increment "shardline_events_received_total" [("shard_id", shard)] count,
            .set "shardline_shard_lag_seconds" [("shard_id", shard)] (lag.secs.toFloat + lag.nanos.toFloat / 1e9)] ++
          s.emitted (deliver first second back)) ∧
      ∀ name other, s.stats.find? name = some other → other.kind = .noop ∨ other.kind = .passive →
        s.emitted (calls.map (.report name)) = [] := by
  intro emitted
  have hemitted : ∀ calls, s.emitted (deliver first second calls) = calls.flatMap StatsCall.emissions :=
    Session.emitted_deliver h1 ho h2 hm
  have he : emitted = calls.flatMap StatsCall.emissions := hemitted calls
  have hne : sink ≠ own := by
    rintro rfl
    rw [ho] at hm
    cases hm
  have hzero : s.store.countsOf own.id = Counts.zero := by
    rw [SinkStore.counts?_of_recording _ ho] at hnew
    exact Option.some.inj hnew
  have htotal : Emission.total "shardline_events_received_total" emitted = (calls.map StatsCall.streamed).sum := by
    rw [he, total_eventsReceived]
  have hunder : ∀ shard, Emission.totalUnder "shardline_events_received_total" [("shard_id", shard)] emitted =
      (calls.map (StatsCall.streamedFrom shard)).sum := fun shard => by
    rw [he, totalUnder_eventsReceived]
  refine ⟨⟨calls.foldl Counts.record Counts.zero, ?_, ?_, ?_, ?_⟩, hunder, ?_, fun shard => ?_, ?_, ?_⟩
  · rw [SinkStore.counts?_of_recording _ ho, Session.countsOf_after s ho, Session.reportsTo_deliver h1 h2 hne, hzero]
  · rw [he, total_checkpoints]
    exact (Counts.tally_foldl_zero calls).checkpoints
  · rw [he, observations_eventDelivery]
    exact (Counts.tally_foldl_zero calls).eventsToClient
  · rw [htotal]
    exact (Counts.tally_foldl_zero calls).eventsFromStream
  · rw [htotal]
    simp only [hunder]
    refine (sum_streamedFrom fun call hcall shard hshard => ?_).symm
    exact List.mem_toFinset.2 (List.mem_filterMap.2 ⟨call, hcall, hshard⟩)
  · rw [he, lastSetting?_shardLag]
  · rintro front back count shard lag rfl
    rw [he, hemitted, hemitted, List.flatMap_append, List.flatMap_cons,
      List.append_assoc]
    rfl
  · intro name other hother hkind
    rw [Session.emitted_reports hother, List.flatMap_eq_nil_iff]
    intro call _
    rcases hkind with hk | hk <;> rw [hk] <;> rfl

/-- Two shards in turn, with more events than a counter can hold. -/
theorem recording_agrees_with_metrics_past_wrap :
    let s := Session.empty.after [.makeStats .recording "r", .makeStats .metrics "m", .makeStats .passive "p"]
    let calls : List StatsCall :=
      [.eventsFromStream 18446744073709551615 "a" (.ofSecs 1), .checkpoint, .eventsFromStream 3 "b" .zero,
        .eventsFromStream 2 "a" (.ofMillis 500)]
    let emitted := s.emitted (deliver "r" "m" calls)
    (∃ counts, (s.after (deliver "r" "m" calls)).store.counts? { kind := .recording, id := 0 } = some counts ∧
        counts.eventsFromStream.toNat = 4) ∧
      Emission.totalUnder "shardline_events_received_total" [("shard_id", "a")] emitted = 18446744073709551617 ∧
      Emission.lastSetting? "shardline_shard_lag_seconds" [("shard_id", "a")] emitted =
        some ((0 : UInt64).toFloat + (500000000 : Nat).toFloat / 1e9) ∧
      s.emitted (calls.map (.report "p")) = [] := by
  intro s calls emitted
  have hr : s.stats.find? "r" = some { kind := .recording, id := 0 } := rfl
  have hm : s.stats.find? "m" = some { kind := .metrics, id := 1 } := rfl
  obtain ⟨⟨counts, hcounts, -, -, hstream⟩, hunder, -, hlast, -, hsilent⟩ :=
    recording_agrees_with_metrics hr rfl rfl hm rfl calls
  refine ⟨⟨counts, hcounts, hstream.trans (by decide)⟩, (hunder "a").trans (by decide), hlast "a", ?_⟩
  exact hsilent "p" { kind := .passive, id := 2 } rfl (Or.inr rfl)

end StreamConsumer
