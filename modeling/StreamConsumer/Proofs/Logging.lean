import Mathlib.Data.List.Basic
import StreamConsumer.Proofs.Memory
import StreamConsumer.Proofs.Run

/-!
# Messages that fail

A history of messages, some of which fail while they are formatted, goes to a recording, a tracing and a silent log
sink. What the first keeps is what the second sends out: the messages that were formatted, in order.  A message that
fails leaves nothing but the mark that the recording sink shows from then on (`loggers_agree`).
-/

namespace StreamConsumer

/-! ### The mark in the text of a sink -/

namespace Text.Form

/-- What follows the last field of a record that is not complete and is the only field of another one. -/
def nestedEnd (onLines : Bool) : List Char :=
  if onLines then
    ',' :: '\n' :: indent 2 ++ '.' :: '.' :: '\n' :: indent 1 ++ '}' :: ',' :: '\n' :: indent 0 ++ ['}']
  else [',', ' ', '.', '.', ' ', '}', ' ', '}']

theorem exists_text_nested_eq (outer field inner key lastKey : String) (value : Form) (last : List Char)
    (onLines : Bool) :
    ∃ front, (record outer [(field, record inner [(key, value), (lastKey, word last)] false)] true).text onLines =
      String.ofList (front ++ (lastKey.toList ++ ':' :: ' ' :: last) ++ nestedEnd onLines) := by
  cases onLines with
  | false =>
    refine ⟨outer.toList ++ [' ', '{', ' '] ++ (field.toList ++ ':' :: ' ' :: (inner.toList ++ [' ', '{', ' '] ++
      (key.toList ++ ':' :: ' ' :: value.compact ++ [',', ' ']))), congrArg String.ofList ?_⟩
    simp [compact, compactFields, separated, nestedEnd]
  | true =>
    refine ⟨outer.toList ++ ' ' :: '{' :: '\n' :: (indent 1 ++ field.toList ++ ':' :: ' ' ::
      (inner.toList ++ ' ' :: '{' :: '\n' :: (indent 2 ++ key.toList ++ ':' :: ' ' :: prettyAt 2 value ++
        ',' :: '\n' :: indent 2))), congrArg String.ofList ?_⟩
    simp [pretty, prettyAt, prettyFields, nestedEnd]

end Text.Form

/-- How the text of a recording log sink ends if a message has failed. -/
def Journal.markedEnd (onLines : Bool) : List Char := "poisoned: true".toList ++ Text.Form.nestedEnd onLines

private theorem true_suffix_iff (front back : List Char) (b : Bool) :
    "poisoned: true".toList ++ back <:+
        front ++ ("poisoned".toList ++ ':' :: ' ' :: (if b then "true" else "false").toList) ++ back ↔
      b = true := by
  cases b with
  | true => exact iff_of_true ⟨front, by simp⟩ rfl
  | false =>
    refine iff_of_false ?_ Bool.false_ne_true
    rintro ⟨before, h⟩
    rw [← List.append_assoc] at h
    have hfront := List.append_cancel_right h
    -- the two words differ in the third letter from the end
    have hlast : before ++ "poisoned: t".toList ++ "rue".toList = front ++ "poisoned: fa".toList ++ "lse".toList := by
      simpa using hfront
    exact absurd (List.append_inj_right' hlast rfl) (by decide)

open Text in
/-- The mark is the last thing in the text, where no line can be mistaken for it. -/
theorem Journal.markedEnd_suffix_iff (j : Journal) (held : Bool) (name : String) (onLines : Bool) :
    markedEnd onLines <:+ ((Form.record name [("lines", j.form held)] true).text onLines).toList ↔
      j.kept.poisoned = true := by
  obtain ⟨front, h⟩ := Form.exists_text_nested_eq name "lines" "Mutex" "data" "poisoned"
    (if held then .name "<locked>" else .list (j.lines.map .quoted))
    (if j.kept.poisoned then "true" else "false").toList onLines
  rw [show (Form.record name [("lines", j.form held)] true).text onLines = _ from h, String.toList_ofList]
  exact true_suffix_iff front _ _

/-! ### Three sinks in one session -/

def Answer.failed : Answer → Bool
  | logged failed _ _ => failed
  | _ => false

def logEach (first second third : String) (message : Message) : List Step :=
  [.log first message, .log second message, .log third message]

/-- The messages of a history, each to three sinks in turn. -/
def logToAll (first second third : String) (messages : List Message) : List Step :=
  messages.flatMap (logEach first second third)

theorem isSinkCall_of_mem_logToAll {first second third : String} {messages : List Message} :
    ∀ step ∈ logToAll first second third messages, step.isSinkCall = true := by
  intro step hstep
  obtain ⟨message, -, h⟩ := List.mem_flatMap.1 hstep
  simp only [logEach, List.mem_cons, List.not_mem_nil, or_false] at h
  rcases h with rfl | rfl | rfl <;> rfl

namespace Session

variable {s : Session} {name : String} {sink : LogSink} {steps : List Step}

theorem emitted_perform_log (h : s.loggers.find? name = some sink) (message : Message) :
    (s.perform (.log name message)).1.emitted =
      if sink.kind = .tracing then (message.line?.map (.event "INFO" "shardline")).toList else [] := by
  simp only [perform, log, h, Answer.emitted, SinkStore.emitted_log]

theorem failed_perform_log (h : s.loggers.find? name = some sink) (message : Message) :
    (s.perform (.log name message)).1.failed = (sink.kind != .noop && message.line?.isNone) := by
  simp only [perform, log, h, Answer.failed, SinkStore.failed_log]

theorem map_failed_of_calls (h : ∀ step ∈ steps, step.isSinkCall = true) :
    (s.run steps).1.map Answer.failed = steps.map fun step => (s.perform step).1.failed := by
  refine map_run_of_calls (fun s step hc => ?_) h
  cases step with
  | report name call => simp only [perform, report, names]; split <;> rfl
  | log name message =>
    simp only [perform, log, names]
    split
    · rfl
    · simp only [Answer.failed, SinkStore.failed_log]
  | _ => cases hc

/-- A message that fails sends nothing out and changes no line of any sink, however much of it was written. -/
theorem perform_log_unformattable (s : Session) (name written : String) :
    (s.perform (.log name (.unformattable written))).1.emitted = [] ∧
      ∀ sink, ((s.perform (.log name (.unformattable written))).2.store.journal? sink).map Journal.lines =
        (s.store.journal? sink).map Journal.lines := by
  simp only [perform, log]
  cases s.loggers.find? name with
  | none => exact ⟨rfl, fun _ => rfl⟩
  | some target =>
    refine ⟨by simp [Answer.emitted, SinkStore.emitted_log, Message.line?], fun sink => ?_⟩
    simp only [SinkStore.journal?, SinkStore.journalOf_log]
    split
    · split
      · simp [Journal.lines_record, Message.line?]
      · rfl
    · rfl

section ToAll

variable {first second third : String} {own traced silent : LogSink} (h1 : s.loggers.find? first = some own)
  (ho : own.kind = .recording) (h2 : s.loggers.find? second = some traced) (ht : traced.kind = .tracing)
  (h3 : s.loggers.find? third = some silent) (hn : silent.kind = .noop) (messages : List Message)

include h1 ho h2 ht h3 hn

/-- Only the tracing sink sends anything out, and only for messages that were formatted. -/
theorem emitted_logToAll :
    s.emitted (logToAll first second third messages) =
      (messages.filterMap Message.line?).map (.event "INFO" "shardline") := by
  have hcall : ∀ message : Message,
      (logEach first second third message).flatMap (fun step => (s.perform step).1.emitted) =
        (message.line?.map (.event "INFO" "shardline")).toList := by
    intro message
    simp [logEach, emitted_perform_log h1, emitted_perform_log h2, emitted_perform_log h3, ho, ht, hn]
  rw [emitted_of_calls isSinkCall_of_mem_logToAll, logToAll, List.flatMap_assoc, List.map_filterMap,
    List.filterMap_eq_flatMap_toList]
  simp only [hcall]

/-- The recording and the tracing sink fail at the same messages, the silent one at none. -/
theorem map_failed_logToAll :
    (s.run (logToAll first second third messages)).1.map Answer.failed =
      messages.flatMap fun message => [message.line?.isNone, message.line?.isNone, false] := by
  have hcall : ∀ message : Message,
      (logEach first second third message).map (fun step => (s.perform step).1.failed) =
        [message.line?.isNone, message.line?.isNone, false] := by
    intro message
    simp [logEach, failed_perform_log h1, failed_perform_log h2, failed_perform_log h3, ho, ht, hn]
  rw [map_failed_of_calls isSinkCall_of_mem_logToAll, logToAll, List.map_flatMap]
  simp only [hcall]

theorem messagesTo_logToAll : s.messagesTo own (logToAll first second third messages) = messages := by
  have hne2 : traced ≠ own := by
    rintro rfl
    rw [ho] at ht
    cases ht
  have hne3 : silent ≠ own := by
    rintro rfl
    rw [ho] at hn
    cases hn
  have hcall : ∀ message : Message, (logEach first second third message).filterMap (s.message? own) = [message] := by
    intro message
    simp [logEach, message?, h1, h2, h3, hne2, hne3]
  rw [messagesTo_of_calls own isSinkCall_of_mem_logToAll, logToAll, List.filterMap_flatMap]
  simp only [hcall, List.flatMap_singleton']

end ToAll

end Session

/-- A new recording sink, a tracing sink and a silent one get the same history of messages.  After every history the
recording sink has kept, and the tracing sink has sent out, exactly the messages that were formatted, in order; both
failed at exactly the others, and the silent one at none.  The next message is kept after them if it is formatted,
whatever has failed before; if not, nothing is sent out and no line of any sink changes.  The text of the recording sink
ends with the mark of a failure exactly if a message has failed. -/
theorem loggers_agree {s : Session} {first second third : String} {own traced silent : LogSink}
    (h1 : s.loggers.find? first = some own) (ho : own.kind = .recording)
    (hnew : s.store.journal? own = some Journal.empty) (h2 : s.loggers.find? second = some traced)
    (ht : traced.kind = .tracing) (h3 : s.loggers.find? third = some silent) (hn : silent.kind = .noop)
    (messages : List Message) :
    let steps := logToAll first second third messages
    let last := s.after steps
    let formatted := messages.filterMap Message.line?
    (∃ journal, last.store.journal? own = some journal ∧ journal.lines = formatted) ∧
      s.emitted steps = formatted.map (.event "INFO" "shardline") ∧
      (s.run steps).1.map Answer.failed =
        (messages.flatMap fun message => [message.line?.isNone, message.line?.isNone, false]) ∧
      (∀ line, (last.perform (.log first (.text line))).1 = .logged false [] (some (formatted ++ [line]))) ∧
      (∀ name written, (last.perform (.log name (.unformattable written))).1.emitted = [] ∧
        ∀ sink, ((last.perform (.log name (.unformattable written))).2.store.journal? sink).map Journal.lines =
          (last.store.journal? sink).map Journal.lines) ∧
      ∀ onLines, ∃ shown, (last.perform (.describeLogger first onLines)).1 = .text shown ∧
        (Journal.markedEnd onLines <:+ shown.toList ↔ ∃ written, .unformattable written ∈ messages) := by
  intro steps last formatted
  have hempty : s.store.journalOf own.id = Journal.empty := by
    rw [SinkStore.journal?_of_recording _ ho] at hnew
    exact Option.some.inj hnew
  have hjournal : last.store.journalOf own.id = messages.foldl Journal.record Journal.empty := by
    rw [Session.journalOf_after s ho, Session.messagesTo_logToAll h1 ho h2 ht h3 hn, hempty]
  have hlines : (last.store.journalOf own.id).lines = formatted := by rw [hjournal, Journal.lines_foldl_empty]
  -- no call gives a name away, so the text is asked of the same sink in the end
  have hname : last.loggers.find? first = some own := by
    have hnames : last.names = s.names := Session.names_after_of_calls isSinkCall_of_mem_logToAll
    rw [← h1]
    exact congrArg (fun t => t.loggers.find? first) hnames
  have hread : last.store.journal? own = some (last.store.journalOf own.id) := SinkStore.journal?_of_recording _ ho
  refine ⟨⟨_, hread, hlines⟩, Session.emitted_logToAll h1 ho h2 ht h3 hn messages,
    Session.map_failed_logToAll h1 ho h2 ht h3 hn messages, fun line => ?_, last.perform_log_unformattable,
    fun onLines => ?_⟩
  · simp [Session.perform, Session.log, hname, ho, SinkStore.failed_log, SinkStore.emitted_log, SinkStore.journal?,
      SinkStore.journalOf_log, Journal.lines_record, Message.line?, hlines]
  · refine ⟨(last.store.logForm [] own).text onLines, by simp only [Session.perform, Session.describeLogger, hname], ?_⟩
    simp only [SinkStore.logForm, hread]
    rw [Journal.markedEnd_suffix_iff, hjournal, Journal.poisoned_foldl_empty]

/-- A message fails between two others. -/
theorem loggers_agree_around_failure :
    let s := Session.empty.after [.makeLogger .recording "r", .makeLogger .tracing "t", .makeLogger .noop "n"]
    let steps := logToAll "r" "t" "n" [.text "a", .unformattable "half", .text "b"]
    (∃ journal, (s.after steps).store.journal? { kind := .recording, id := 0 } = some journal ∧
        journal.lines = ["a", "b"]) ∧
      s.emitted steps = [.event "INFO" "shardline" "a", .event "INFO" "shardline" "b"] ∧
      (s.run steps).1.map Answer.failed = [false, false, false, true, true, false, false, false, false] ∧
      ∃ shown, ((s.after steps).perform (.describeLogger "r" false)).1 = .text shown ∧
        Journal.markedEnd false <:+ shown.toList := by
  intro s steps
  have h1 : s.loggers.find? "r" = some { kind := .recording, id := 0 } := rfl
  have h2 : s.loggers.find? "t" = some { kind := .tracing, id := 1 } := rfl
  have h3 : s.loggers.find? "n" = some { kind := .noop, id := 2 } := rfl
  obtain ⟨hlines, hsent, hfailed, -, -, hshown⟩ :=
    loggers_agree h1 rfl rfl h2 rfl h3 rfl [.text "a", .unformattable "half", .text "b"]
  obtain ⟨shown, htext, hmark⟩ := hshown false
  exact ⟨hlines, hsent, hfailed, shown, htext, hmark.2 (by simp)⟩

end StreamConsumer
