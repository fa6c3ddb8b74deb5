import StreamConsumer.Proofs.Ledger
import StreamConsumer.Proofs.Memory
import StreamConsumer.Proofs.Reorder

/-!
# What recording sinks tell

Recording sinks lose, repeat and mix up nothing.  At every point of a run, the counters and the lines of the sinks that a
step made are those of exactly the calls that a ledger assigns to the place of the step (`recording_sinks_account`),
through whatever names and derived configurations the calls came, and trades between calls have no effect but on the order
of the lines.
-/

namespace StreamConsumer

namespace Session

/-! ### The memory at the end of a run -/

theorem counts?_after_empty {sink : StatsSink} (h : sink.kind = .recording) (steps : List Step) :
    (empty.after steps).store.counts? sink = some ((empty.reportsTo sink steps).foldl Counts.record Counts.zero) := by
  rw [SinkStore.counts?_of_recording _ h, countsOf_after empty h]
  rfl

theorem journal?_after_empty {sink : LogSink} (h : sink.kind = .recording) (steps : List Step) :
    (empty.after steps).store.journal? sink =
      some ((empty.messagesTo sink steps).foldl Journal.record Journal.empty) := by
  rw [SinkStore.journal?_of_recording _ h, journalOf_after empty h]
  rfl

/-! ### Calls through configurations -/

variable {s : Session} {source name : String} {c : Config}

/-- What a report through a configuration adds to the counts of a recording sink: nothing if the configuration holds
another sink. -/
theorem counts?_after_report_through {own sink : StatsSink} (hown : own.kind = .recording)
    (hc : s.configs.find? source = some c) (hs : c.stats = some sink) (call : StatsCall) :
    (s.after [.takeStats source name, .report name call]).store.counts? own =
      some (if sink = own then (s.store.countsOf own.id).record call else s.store.countsOf own.id) := by
  have ht : (s.perform (.takeStats source name)).2 = { s with stats := s.stats.insert name sink } := by
    simp only [perform, takeStats, hc, hs]
  rw [SinkStore.counts?_of_recording _ hown, countsOf_after s hown]
  simp only [reportsTo, gather, report?, ht, Table.find?_insert, if_true, Option.some.injEq]
  split <;> rfl

/-- What a message through a configuration adds to the lines of a recording sink. -/
theorem journal?_after_log_through {own sink : LogSink} (hown : own.kind = .recording)
    (hc : s.configs.find? source = some c) (hs : c.logger = some sink) (message : Message) :
    (s.after [.takeLogger source name, .log name message]).store.journal? own =
      some (if sink = own then (s.store.journalOf own.id).record message else s.store.journalOf own.id) := by
  have ht : (s.perform (.takeLogger source name)).2 = { s with loggers := s.loggers.insert name sink } := by
    simp only [perform, takeLogger, hc, hs]
  rw [SinkStore.journal?_of_recording _ hown, journalOf_after s hown]
  simp only [messagesTo, gather, message?, ht, Table.find?_insert, if_true, Option.some.injEq]
  split <;> rfl

end Session

/-! ### The account -/

theorem find?_after_createRecording (before : List Step) (sinks target : String) :
    let id := (Session.empty.after before).nextId
    let made := Session.empty.after (before ++ [.createRecording sinks target])
    made.stats.find? sinks = some (RecordingSinks.numbered id).stats ∧
      made.loggers.find? sinks = some (RecordingSinks.numbered id).logger ∧
      made.configs.find? target = some (Config.recording id) := by
  intro id made
  have hm : made = ((Session.empty.after before).perform (.createRecording sinks target)).2 :=
    Session.after_append _ _ _
  rw [hm]
  simp [Session.perform, Session.createRecording, Session.bind, id]

/-- For the recording sinks of every recording configuration that a run makes: (a) its two names and the configuration
stand for them, (b) at the end their counters tell exactly the reports and (c) their lines are exactly the messages, in
order, that the ledger assigns to them, (d, e) a call through a configuration that holds another sink adds nothing, and
(f) after trades between calls and their neighbours the names stand for the same, the counters are the same and the lines
are the same but for their order. -/
theorem recording_sinks_account (before after : List Step) (sinks target : String) :
    let id := (Session.empty.after before).nextId
    let own := RecordingSinks.numbered id
    let made := Session.empty.after (before ++ [.createRecording sinks target])
    let steps := before ++ .createRecording sinks target :: after
    let last := Session.empty.after steps
    (made.stats.find? sinks = some own.stats ∧ made.loggers.find? sinks = some own.logger ∧
        made.configs.find? target = some (Config.recording id)) ∧
      (∃ counts, last.store.counts? own.stats = some counts ∧
        counts.Tally (Ledger.empty.reportsTo before.length steps)) ∧
      (∃ journal, last.store.journal? own.logger = some journal ∧
        journal.lines = (Ledger.empty.messagesTo before.length steps).filterMap Message.line?) ∧
      (∀ source c sink name call, last.configs.find? source = some c → c.stats = some sink → sink ≠ own.stats →
        (last.after [.takeStats source name, .report name call]).store.counts? own.stats =
          last.store.counts? own.stats) ∧
      (∀ source c sink name message, last.configs.find? source = some c → c.logger = some sink → sink ≠ own.logger →
        (last.after [.takeLogger source name, .log name message]).store.journal? own.logger =
          last.store.journal? own.logger) ∧
      ∀ steps', Reordered steps steps' →
        (Session.empty.after steps').names = last.names ∧
          (Session.empty.after steps').store.counts? own.stats = last.store.counts? own.stats ∧
          ∃ journal journal', last.store.journal? own.logger = some journal ∧
            (Session.empty.after steps').store.journal? own.logger = some journal' ∧
            journal'.lines.Perm journal.lines := by
  intro id own made steps last
  have hs : own.stats.kind = .recording := rfl
  have hl : own.logger.kind = .recording := rfl
  have hcounts := fun steps => Session.counts?_after_empty hs steps
  have hjournal := fun steps => Session.journal?_after_empty hl steps
  refine ⟨find?_after_createRecording before sinks target, ⟨_, hcounts steps, ?_⟩, ⟨_, hjournal steps, ?_⟩, ?_, ?_, ?_⟩
  · rw [Ledger.reportsTo_eq before after sinks target]
    exact Counts.tally_foldl_zero _
  · rw [Ledger.messagesTo_eq before after sinks target]
    exact Journal.lines_foldl_empty _
  · intro source c sink name call hc hsink hne
    rw [Session.counts?_after_report_through hs hc hsink, if_neg hne, SinkStore.counts?_of_recording _ hs]
  · intro source c sink name message hc hsink hne
    rw [Session.journal?_after_log_through hl hc hsink, if_neg hne, SinkStore.journal?_of_recording _ hl]
  · intro steps' hr
    have hagree := hr.agree Session.empty
    refine ⟨hagree.names.symm, ?_, _, _, hjournal steps, hjournal steps', ?_⟩
    · rw [hcounts steps, hcounts steps', Counts.foldl_record_perm _ (hagree.reports own.stats)]
    · rw [Journal.lines_foldl_empty, Journal.lines_foldl_empty]
      exact ((hagree.messages own.logger).symm).filterMap _

/-- The sinks of the second of two recording configurations, called through a clone, beside calls to the first one. -/
theorem recording_sinks_account_of_second :
    let before : List Step := [.createRecording "a" "c"]
    let calls : List Step :=
      [.report "f" .checkpoint, .report "a" .checkpoint, .log "b" (.text "x"), .log "b" (.text "y")]
    let taking : List Step := [.copy "d" "e", .takeStats "e" "f"]
    let run : List Step → List Step := fun calls => before ++ .createRecording "b" "d" :: (taking ++ calls)
    let own := RecordingSinks.numbered 1
    let last := Session.empty.after (run calls)
    (∃ counts, last.store.counts? own.stats = some counts ∧ counts.Tally [.checkpoint]) ∧
      (∃ journal, last.store.journal? own.logger = some journal ∧ journal.lines = ["x", "y"]) ∧
      (last.after [.takeStats "c" "g", .report "g" .checkpoint]).store.counts? own.stats =
        last.store.counts? own.stats ∧
      (last.after [.takeLogger "c" "g", .log "g" (.text "z")]).store.journal? own.logger =
        last.store.journal? own.logger ∧
      (Session.empty.after (run calls.reverse)).store.counts? own.stats = last.store.counts? own.stats := by
  intro before calls taking run own last
  obtain ⟨-, hcounts, hlines, hstats, hlogger, htrades⟩ := recording_sinks_account before (taking ++ calls) "b" "d"
  have hr : Reordered (run calls) (run calls.reverse) := by
    have h := Reordered.of_perm (before ++ .createRecording "b" "d" :: taking) [] (List.reverse_perm calls).symm
      (by simp [calls, Step.isSinkCall])
    simpa [run] using h
  refine ⟨hcounts, hlines, ?_, ?_, (htrades _ hr).2.1⟩
  · exact hstats "c" (Config.recording 0) (RecordingSinks.numbered 0).stats "g" .checkpoint rfl rfl (by decide)
  · exact hlogger "c" (Config.recording 0) (RecordingSinks.numbered 0).logger "g" (.text "z") rfl rfl (by decide)

end StreamConsumer
