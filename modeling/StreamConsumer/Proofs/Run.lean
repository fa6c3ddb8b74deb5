import StreamConsumer.Proofs.Memory
import StreamConsumer.Session.Run

/-!
# Runs of a session

What a step and a run leave behind.  A step has a frame (`Session.frame_perform`): it binds its own names, and only one
that makes sinks uses up a number.  So a name of a configuration keeps its configuration until a step has the name as
its target (`Session.find?_configs_after`), and the memory of a recording sink is that of the calls which reach it, in
order (`Session.countsOf_after`, `Session.journalOf_after`).
-/

namespace StreamConsumer

/-- The step makes sinks of its own. -/
def Step.makesSinks : Step → Bool
  | create _ _ | createRecording _ _ | makeStats _ _ | makeLogger _ _ => true
  | _ => false

/-- The name that the step gives to a statistics sink, if it names one. -/
def Step.statsName? : Step → Option String
  | createRecording sinks _ => some sinks
  | takeStats _ sink | makeStats _ sink => some sink
  | _ => none

def Step.loggerName? : Step → Option String
  | createRecording sinks _ => some sinks
  | takeLogger _ sink | makeLogger _ sink => some sink
  | _ => none

/-! ### What a run gives -/

section Gather

variable {σ τ α β : Type}

/-- What the steps of a run give, first to last; each is asked for in the state before its step. -/
def gather (next : σ → Step → σ) (pick : σ → Step → Option α) (s : σ) : List Step → List α
  | [] => []
  | step :: steps => (pick s step).toList ++ gather next pick (next s step) steps

variable {next : σ → Step → σ} {pick : σ → Step → Option α} {next' : τ → Step → τ} {pick' : τ → Step → Option α}

theorem gather_append (s : σ) (first second : List Step) :
    gather next pick s (first ++ second) =
      gather next pick s first ++ gather next pick (first.foldl next s) second := by
  induction first generalizing s with
  | nil => rfl
  | cons step first ih => rw [List.cons_append, gather, ih, gather, List.append_assoc, List.foldl_cons]

/-- Systems give the same along a run if they give the same at each step of it. -/
theorem gather_eq {R : σ → τ → List Step → Prop}
    (h : ∀ s t step steps, R s t (step :: steps) → pick s step = pick' t step ∧ R (next s step) (next' t step) steps)
    {s : σ} {t : τ} {steps : List Step} (hR : R s t steps) :
    gather next pick s steps = gather next' pick' t steps := by
  induction steps generalizing s t with
  | nil => rfl
  | cons step steps ih =>
    obtain ⟨hpick, hR⟩ := h s t step steps hR
    rw [gather, gather, hpick, ih hR]

/-- A part of the state that every step records its gift in has recorded all gifts of the run. -/
theorem foldl_gather (read : σ → β) {record : β → α → β}
    (h : ∀ s step, read (next s step) = (pick s step).toList.foldl record (read s)) (s : σ) (steps : List Step) :
    (gather next pick s steps).foldl record (read s) = read (steps.foldl next s) := by
  induction steps generalizing s with
  | nil => rfl
  | cons step steps ih => rw [gather, List.foldl_append, ← h, ih, List.foldl_cons]

end Gather

namespace SinkStore

theorem counts?_of_recording (store : SinkStore) {sink : StatsSink} (h : sink.kind = .recording) :
    store.counts? sink = some (store.countsOf sink.id) := if_pos h

theorem journal?_of_recording (store : SinkStore) {sink : LogSink} (h : sink.kind = .recording) :
    store.journal? sink = some (store.journalOf sink.id) := if_pos h

theorem countsOf_log (store : SinkStore) (sink : LogSink) (message : Message) (id : Nat) :
    (store.log sink message).2.countsOf id = store.countsOf id := by
  unfold log
  split <;> rfl

theorem journalOf_report (store : SinkStore) (sink : StatsSink) (call : StatsCall) (id : Nat) :
    (store.report sink call).journalOf id = store.journalOf id := by
  unfold report
  split <;> rfl

end SinkStore

namespace Session

def after (s : Session) (steps : List Step) : Session := (s.run steps).2

theorem after_cons (s : Session) (step : Step) (steps : List Step) :
    s.after (step :: steps) = (s.perform step).2.after steps := rfl

theorem after_eq_foldl (s : Session) (steps : List Step) :
    s.after steps = steps.foldl (fun s step => (s.perform step).2) s := by
  induction steps generalizing s with
  | nil => rfl
  | cons step steps ih => exact ih (s.perform step).2

theorem after_append (s : Session) (first second : List Step) :
    s.after (first ++ second) = (s.after first).after second := by
  induction first generalizing s with
  | nil => rfl
  | cons step first ih => exact ih (s.perform step).2

/-! ### What a step changes -/

/-- The name gets the statistics sink of the configuration, if there is one. -/
theorem takeStats_snd (s : Session) (source name : String) :
    (s.takeStats source name).2 =
      match (s.configs.find? source).bind Config.stats with
      | none => s
      | some sink => { s with stats := s.stats.insert name sink } := by
  unfold takeStats
  cases s.configs.find? source with
  | none => rfl
  | some c =>
    simp only [Option.bind_some]
    cases hc : c.stats <;> rfl

theorem takeLogger_snd (s : Session) (source name : String) :
    (s.takeLogger source name).2 =
      match (s.configs.find? source).bind Config.logger with
      | none => s
      | some sink => { s with loggers := s.loggers.insert name sink } := by
  unfold takeLogger
  cases s.configs.find? source with
  | none => rfl
  | some c =>
    simp only [Option.bind_some]
    cases hc : c.logger <;> rfl

/-- What every step keeps: the configurations that are not its target, the sinks that it does not name, what the sinks
remember unless it calls one, and the next number unless it makes sinks. -/
structure Frame (s : Session) (step : Step) (s' : Session) : Prop where
  configs : ∀ name, step.target? ≠ some name → s'.configs.find? name = s.configs.find? name
  stats : ∀ name, step.statsName? ≠ some name → s'.stats.find? name = s.stats.find? name
  loggers : ∀ name, step.loggerName? ≠ some name → s'.loggers.find? name = s.loggers.find? name
  store : step.isSinkCall = false → s'.store = s.store
  nextId : s'.nextId = if step.makesSinks then s.nextId + 1 else s.nextId

private theorem frame_self (s : Session) {step : Step} (h : step.makesSinks = false) : Frame s step s :=
  ⟨fun _ _ => rfl, fun _ _ => rfl, fun _ _ => rfl, fun _ => rfl, by rw [h]; rfl⟩

private theorem find?_insert_of_ne {α : Type} (t : Table String α) {key name : String} (a : α)
    (h : some key ≠ some name) : (t.insert key a).find? name = t.find? name := by
  have hne : name ≠ key := fun e => h (e ▸ rfl)
  rw [Table.find?_insert, if_neg hne]

private theorem frame_derive (s : Session) {step : Step} {source target : String} (f : Config → Config)
    (ht : step.target? = some target) (hm : step.makesSinks = false) : Frame s step (s.derive source target f).2 := by
  unfold derive
  split
  · exact s.frame_self hm
  · exact ⟨fun name h => find?_insert_of_ne _ _ (ht ▸ h), fun _ _ => rfl, fun _ _ => rfl, fun _ => rfl,
      by rw [hm]; rfl⟩

theorem frame_perform (s : Session) (step : Step) : Frame s step (s.perform step).2 := by
  cases step with
  | create origin target =>
    exact ⟨fun name h => find?_insert_of_ne _ _ h, fun _ _ => rfl, fun _ _ => rfl, fun _ => rfl, rfl⟩
  | createRecording sinks target =>
    exact ⟨fun name h => find?_insert_of_ne _ _ h, fun name h => find?_insert_of_ne _ _ h,
      fun name h => find?_insert_of_ne _ _ h, fun _ => rfl, rfl⟩
  | copy source target => exact s.frame_derive _ rfl rfl
  | set source target setting => exact s.frame_derive _ rfl rfl
  | attachStats source target sink =>
    simp only [perform, attachStats]
    split
    · exact s.frame_self rfl
    · exact s.frame_derive _ rfl rfl
  | attachLogger source target sink =>
    simp only [perform, attachLogger]
    split
    · exact s.frame_self rfl
    · exact s.frame_derive _ rfl rfl
  | takeStats source sink =>
    simp only [perform, takeStats_snd]
    split
    · exact s.frame_self rfl
    · exact ⟨fun _ _ => rfl, fun name h => find?_insert_of_ne _ _ h, fun _ _ => rfl, fun _ => rfl, rfl⟩
  | takeLogger source sink =>
    simp only [perform, takeLogger_snd]
    split
    · exact s.frame_self rfl
    · exact ⟨fun _ _ => rfl, fun _ _ => rfl, fun name h => find?_insert_of_ne _ _ h, fun _ => rfl, rfl⟩
  | makeStats kind sink =>
    exact ⟨fun _ _ => rfl, fun name h => find?_insert_of_ne _ _ h, fun _ _ => rfl, fun _ => rfl, rfl⟩
  | makeLogger kind sink =>
    exact ⟨fun _ _ => rfl, fun _ _ => rfl, fun name h => find?_insert_of_ne _ _ h, fun _ => rfl, rfl⟩
  | report sink call =>
    simp only [perform, report]
    split
    · exact s.frame_self rfl
    · exact ⟨fun _ _ => rfl, fun _ _ => rfl, fun _ _ => rfl, by simp [Step.isSinkCall], rfl⟩
  | log sink message =>
    simp only [perform, log]
    split
    · exact s.frame_self rfl
    · exact ⟨fun _ _ => rfl, fun _ _ => rfl, fun _ _ => rfl, by simp [Step.isSinkCall], rfl⟩
  | _ => exact s.frame_self rfl

/-! ### Names apart from memory -/

/-- The session with nothing remembered. -/
def names (s : Session) : Session := { s with store := SinkStore.empty }

/-- What the names stand for after a step does not depend on what the sinks remember. -/
theorem names_perform (s : Session) (step : Step) : (s.perform step).2.names = (s.names.perform step).2.names := by
  -- four kinds of steps come down to this
  have hderive : ∀ source target f, (s.derive source target f).2.names = (s.names.derive source target f).2.names := by
    intro source target f
    simp only [derive, names]
    cases s.configs.find? source <;> rfl
  cases step with
  | copy source target => exact hderive source target _
  | set source target setting => exact hderive source target _
  | attachStats source target sink =>
    simp only [perform, attachStats, names]
    cases sink? s.stats sink with
    | none => rfl
    | some sink => exact hderive source target _
  | attachLogger source target sink =>
    simp only [perform, attachLogger, names]
    cases sink? s.loggers sink with
    | none => rfl
    | some sink => exact hderive source target _
  | takeStats source sink =>
    simp only [perform, takeStats_snd, names]
    cases (s.configs.find? source).bind Config.stats <;> rfl
  | takeLogger source sink =>
    simp only [perform, takeLogger_snd, names]
    cases (s.configs.find? source).bind Config.logger <;> rfl
  | report sink call => simp only [perform, report, names]; cases s.stats.find? sink <;> rfl
  | log sink message => simp only [perform, log, names]; cases s.loggers.find? sink <;> rfl
  | _ => rfl

theorem names_perform_of_isSinkCall (s : Session) {step : Step} (h : step.isSinkCall = true) :
    (s.perform step).2.names = s.names := by
  cases step with
  | report sink call => simp only [perform, report]; split <;> rfl
  | log sink message => simp only [perform, log]; split <;> rfl
  | _ => cases h

/-! ### Runs -/

/-- A configuration stays under its name through all steps that have other targets. -/
theorem find?_configs_after (s : Session) {steps : List Step} {name : String}
    (h : ∀ step ∈ steps, step.target? ≠ some name) : (s.after steps).configs.find? name = s.configs.find? name := by
  induction steps generalizing s with
  | nil => rfl
  | cons step steps ih =>
    rw [after_cons, ih _ fun t ht => h t (List.mem_cons_of_mem _ ht)]
    exact (s.frame_perform step).configs name (h step List.mem_cons_self)

theorem nextId_le_after (s : Session) (steps : List Step) : s.nextId ≤ (s.after steps).nextId := by
  induction steps generalizing s with
  | nil => exact Nat.le_refl _
  | cons step steps ih =>
    have h1 := (s.frame_perform step).nextId
    have h2 := ih (s.perform step).2
    rw [after_cons]
    split at h1 <;> omega

/-! ### What is sent out -/

end Session

/-- The calls of the facades that an answer tells of. -/
def Answer.emitted : Answer → List Emission
  | reported emitted _ | logged _ emitted _ => emitted
  | _ => []

namespace Session

def emitted (s : Session) (steps : List Step) : List Emission := (s.run steps).1.flatMap Answer.emitted

theorem emitted_perform (s : Session) {step : Step} (h : step.isSinkCall = false) :
    (s.perform step).1.emitted = [] := by
  have hderive : ∀ source target f, (s.derive source target f).1.emitted = [] := by
    intro source target f
    unfold derive
    split <;> rfl
  have hread : ∀ source f, (∀ c : Config, (f c).emitted = []) → (s.read source f).emitted = [] := by
    intro source f hf
    unfold read
    split
    · rfl
    · exact hf _
  cases step with
  | create origin target => rfl
  | createRecording sinks target => rfl
  | copy source target => exact hderive source target _
  | set source target setting => exact hderive source target _
  | attachStats source target name =>
    simp only [perform, attachStats]
    split
    · rfl
    · exact hderive source target _
  | attachLogger source target name =>
    simp only [perform, attachLogger]
    split
    · rfl
    · exact hderive source target _
  | inspect source => exact hread source _ fun _ => rfl
  | validate source => exact hread source _ fun _ => rfl
  | startPosition source checkpoint => exact hread source _ fun _ => rfl
  | compare first second => exact hread first _ fun _ => hread second _ fun _ => rfl
  | describe source onLines => exact hread source _ fun _ => rfl
  | takeStats source name =>
    simp only [perform, takeStats]
    cases s.configs.find? source with
    | none => rfl
    | some c => cases hc : c.stats <;> simp only [hc] <;> rfl
  | takeLogger source name =>
    simp only [perform, takeLogger]
    cases s.configs.find? source with
    | none => rfl
    | some c => cases hc : c.logger <;> simp only [hc] <;> rfl
  | makeStats kind name => rfl
  | makeLogger kind name => rfl
  | report name call => cases h
  | log name message => cases h
  | describeStats name onLines => simp only [perform, describeStats]; split <;> rfl
  | describeLogger name onLines => simp only [perform, describeLogger]; split <;> rfl

/-! ### Calls that reach a sink -/

/-- The report of a step to this sink: the step reports to a name that stands for the sink. -/
def report? (s : Session) (sink : StatsSink) : Step → Option StatsCall
  | .report name call => if s.stats.find? name = some sink then some call else none
  | _ => none

def message? (s : Session) (sink : LogSink) : Step → Option Message
  | .log name message => if s.loggers.find? name = some sink then some message else none
  | _ => none

/-- The reports of a run to this sink, first to last. -/
def reportsTo (s : Session) (sink : StatsSink) (steps : List Step) : List StatsCall :=
  gather (fun s step => (s.perform step).2) (fun s step => s.report? sink step) s steps

def messagesTo (s : Session) (sink : LogSink) (steps : List Step) : List Message :=
  gather (fun s step => (s.perform step).2) (fun s step => s.message? sink step) s steps

private theorem statsSink_eq_iff {sink sink' : StatsSink} (h : sink.kind = .recording) :
    sink'.kind = .recording ∧ sink.id = sink'.id ↔ sink' = sink := by
  obtain ⟨kind, id⟩ := sink
  obtain ⟨kind', id'⟩ := sink'
  subst h
  simp [eq_comm]

private theorem logSink_eq_iff {sink sink' : LogSink} (h : sink.kind = .recording) :
    sink'.kind = .recording ∧ sink.id = sink'.id ↔ sink' = sink := by
  obtain ⟨kind, id⟩ := sink
  obtain ⟨kind', id'⟩ := sink'
  subst h
  simp [eq_comm]

theorem countsOf_perform (s : Session) {sink : StatsSink} (h : sink.kind = .recording) (step : Step) :
    (s.perform step).2.store.countsOf sink.id =
      (s.report? sink step).toList.foldl Counts.record (s.store.countsOf sink.id) := by
  have hframe := (s.frame_perform step).store
  cases step with
  | report name call =>
    simp only [perform, report, report?]
    cases s.stats.find? name with
    | none => simp
    | some sink' =>
      simp only [SinkStore.countsOf_report, statsSink_eq_iff h, Option.some.injEq]
      split <;> rfl
  | log name message =>
    simp only [perform, log, report?]
    split
    · rfl
    · exact s.store.countsOf_log _ message sink.id
  | _ => rw [hframe rfl]; rfl

theorem journalOf_perform (s : Session) {sink : LogSink} (h : sink.kind = .recording) (step : Step) :
    (s.perform step).2.store.journalOf sink.id =
      (s.message? sink step).toList.foldl Journal.record (s.store.journalOf sink.id) := by
  have hframe := (s.frame_perform step).store
  cases step with
  | log name message =>
    simp only [perform, log, message?]
    cases s.loggers.find? name with
    | none => simp
    | some sink' =>
      simp only [SinkStore.journalOf_log, logSink_eq_iff h, Option.some.injEq]
      split <;> rfl
  | report name call =>
    simp only [perform, report, message?]
    split
    · rfl
    · exact s.store.journalOf_report _ call sink.id
  | _ => rw [hframe rfl]; rfl

/-- A recording sink has counted exactly the reports that reached it. -/
theorem countsOf_after (s : Session) {sink : StatsSink} (h : sink.kind = .recording) (steps : List Step) :
    (s.after steps).store.countsOf sink.id =
      (s.reportsTo sink steps).foldl Counts.record (s.store.countsOf sink.id) := by
  rw [after_eq_foldl]
  exact (foldl_gather (fun s => s.store.countsOf sink.id) (fun s step => s.countsOf_perform h step) s steps).symm

theorem journalOf_after (s : Session) {sink : LogSink} (h : sink.kind = .recording) (steps : List Step) :
    (s.after steps).store.journalOf sink.id =
      (s.messagesTo sink steps).foldl Journal.record (s.store.journalOf sink.id) := by
  rw [after_eq_foldl]
  exact (foldl_gather (fun s => s.store.journalOf sink.id) (fun s step => s.journalOf_perform h step) s steps).symm

/-! ### Runs of calls -/

section Calls

variable {s : Session} {steps : List Step}

theorem names_after_of_calls (h : ∀ step ∈ steps, step.isSinkCall = true) : (s.after steps).names = s.names := by
  induction steps generalizing s with
  | nil => rfl
  | cons step steps ih =>
    rw [after_cons, ih fun t ht => h t (List.mem_cons_of_mem _ ht)]
    exact s.names_perform_of_isSinkCall (h step List.mem_cons_self)

/-- What the names alone decide of the answer to a step, they decide of all answers before any of the calls is made. -/
theorem map_run_of_calls {α : Type} {read : Answer → α}
    (hread : ∀ (s : Session) (step : Step), step.isSinkCall = true →
      read (s.perform step).1 = read (s.names.perform step).1)
    (h : ∀ step ∈ steps, step.isSinkCall = true) :
    (s.run steps).1.map read = steps.map fun step => read (s.perform step).1 := by
  induction steps generalizing s with
  | nil => rfl
  | cons step steps ih =>
    have hnames : (s.perform step).2.names = s.names := s.names_perform_of_isSinkCall (h step List.mem_cons_self)
    have hrest : ∀ t ∈ steps, t.isSinkCall = true := fun t ht => h t (List.mem_cons_of_mem _ ht)
    show read (s.perform step).1 :: ((s.perform step).2.run steps).1.map read = _
    rw [ih hrest, List.map_cons]
    refine congrArg _ (List.map_congr_left fun t ht => ?_)
    rw [hread _ t (hrest t ht), hread s t (hrest t ht), hnames]

/-- The calls that reach a sink are those to its names. -/
theorem gather_of_calls {α : Type} {pick : Session → Step → Option α}
    (hpick : ∀ (s : Session) (step : Step), pick s step = pick s.names step)
    (h : ∀ step ∈ steps, step.isSinkCall = true) :
    gather (fun s step => (s.perform step).2) pick s steps = steps.filterMap (pick s) := by
  induction steps generalizing s with
  | nil => rfl
  | cons step steps ih =>
    have hnames : (s.perform step).2.names = s.names := s.names_perform_of_isSinkCall (h step List.mem_cons_self)
    rw [gather, ih fun t ht => h t (List.mem_cons_of_mem _ ht), List.filterMap_cons]
    have hrest : pick (s.perform step).2 = pick s := funext fun t => by rw [hpick, hnames, ← hpick]
    rw [hrest]
    cases pick s step <;> rfl

theorem emitted_of_calls (h : ∀ step ∈ steps, step.isSinkCall = true) :
    s.emitted steps = steps.flatMap fun step => (s.perform step).1.emitted := by
  have hread : ∀ (s : Session) (step : Step), step.isSinkCall = true →
      (s.perform step).1.emitted = (s.names.perform step).1.emitted := by
    intro s step hc
    cases step with
    | report name call => simp only [perform, report, names]; split <;> rfl
    | log name message =>
      simp only [perform, log, names]
      split
      · rfl
      · simp only [Answer.emitted, SinkStore.emitted_log]
    | _ => cases hc
  rw [emitted, List.flatMap_def, map_run_of_calls hread h, List.flatMap_def]

theorem reportsTo_of_calls (sink : StatsSink) (h : ∀ step ∈ steps, step.isSinkCall = true) :
    s.reportsTo sink steps = steps.filterMap (s.report? sink) :=
  gather_of_calls (fun _ step => by cases step <;> rfl) h

theorem messagesTo_of_calls (sink : LogSink) (h : ∀ step ∈ steps, step.isSinkCall = true) :
    s.messagesTo sink steps = steps.filterMap (s.message? sink) :=
  gather_of_calls (fun _ step => by cases step <;> rfl) h

end Calls

end Session

end StreamConsumer
