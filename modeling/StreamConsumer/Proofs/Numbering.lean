import StreamConsumer.Proofs.Run

/-!
# Numbers of sinks

Every sink that a session knows has a number below the next one, and nothing is remembered under any other number
(`Session.Numbered`).  Every step keeps this (`Session.Numbered.perform`), so a sink that is made next is new wherever
the run has led: its text is that of a sink that was never called.
-/

namespace StreamConsumer

/-! ### Properties of all values of a table -/

namespace Table

variable {α : Type} {p q : α → Prop} {t : Table String α}

/-- Whatever a name stands for has the property. -/
def All (p : α → Prop) (t : Table String α) : Prop := ∀ name a, t.find? name = some a → p a

theorem all_empty (p : α → Prop) : (empty : Table String α).All p := nofun

theorem All.mono (h : t.All p) (hpq : ∀ a, p a → q a) : t.All q := fun name a ha => hpq a (h name a ha)

theorem All.insert (h : t.All p) (name : String) {a : α} (ha : p a) : (t.insert name a).All p := by
  intro key b hb
  rw [find?_insert] at hb
  split at hb
  · exact Option.some.inj hb ▸ ha
  · exact h key b hb

end Table

/-- The sinks of the configuration have numbers below `n`. -/
structure Config.SinksBelow (n : Nat) (c : Config) : Prop where
  stats : ∀ sink, c.stats = some sink → sink.id < n
  logger : ∀ sink, c.logger = some sink → sink.id < n

namespace Config.SinksBelow

variable {n m : Nat} {c : Config}

theorem mono (h : c.SinksBelow n) (hnm : n ≤ m) : c.SinksBelow m :=
  ⟨fun sink hs => Nat.lt_of_lt_of_le (h.stats sink hs) hnm, fun sink hs => Nat.lt_of_lt_of_le (h.logger sink hs) hnm⟩

theorem set (h : c.SinksBelow n) (setting : Setting) : (c.set setting).SinksBelow n := by
  cases setting <;> exact ⟨h.stats, h.logger⟩

theorem exchangeStats (h : c.SinksBelow n) {sink : Option StatsSink} (hs : ∀ k, sink = some k → k.id < n) :
    (c.apply (.stats sink)).SinksBelow n := ⟨hs, h.logger⟩

theorem exchangeLogger (h : c.SinksBelow n) {sink : Option LogSink} (hs : ∀ k, sink = some k → k.id < n) :
    (c.apply (.logger sink)).SinksBelow n := ⟨h.stats, hs⟩

end Config.SinksBelow

/-! ### The next number is new -/

namespace Session

structure Numbered (s : Session) : Prop where
  configs : s.configs.All (Config.SinksBelow s.nextId)
  stats : s.stats.All fun sink => sink.id < s.nextId
  loggers : s.loggers.All fun sink => sink.id < s.nextId
  counts : ∀ id, s.nextId ≤ id → s.store.countsOf id = Counts.zero
  journals : ∀ id, s.nextId ≤ id → s.store.journalOf id = Journal.empty

theorem numbered_empty : empty.Numbered :=
  ⟨Table.all_empty _, Table.all_empty _, Table.all_empty _, fun _ _ => rfl, fun _ _ => rfl⟩

/-- A sink that is found by its name, or none, has a number below `n` if all in the table have one. -/
private theorem sink?_lt {α : Type} {id : α → Nat} {n : Nat} {t : Table String α} (h : t.All fun a => id a < n)
    {name : Option String} {sink : Option α} (hs : sink? t name = some sink) : ∀ k, sink = some k → id k < n := by
  rintro k rfl
  cases name with
  | none => simp [sink?] at hs
  | some name =>
    obtain ⟨a, ha, hk⟩ := Option.map_eq_some_iff.1 hs
    exact Option.some.inj hk ▸ h name a ha

namespace Numbered

variable {s : Session}

private theorem succ (h : s.Numbered) : ({ s with nextId := s.nextId + 1 } : Session).Numbered where
  configs := h.configs.mono fun _ hc => hc.mono (Nat.le_succ _)
  stats := h.stats.mono fun _ hs => Nat.lt_succ_of_lt hs
  loggers := h.loggers.mono fun _ hs => Nat.lt_succ_of_lt hs
  counts id hid := h.counts id (Nat.le_of_succ_le hid)
  journals id hid := h.journals id (Nat.le_of_succ_le hid)

private theorem derive (h : s.Numbered) (source target : String) {f : Config → Config}
    (hf : ∀ c, c.SinksBelow s.nextId → (f c).SinksBelow s.nextId) : (s.derive source target f).2.Numbered := by
  unfold Session.derive
  split
  · exact h
  · next c hc =>
    exact ⟨h.configs.insert target (hf c (h.configs source c hc)), h.stats, h.loggers, h.counts, h.journals⟩

private theorem attachStats (h : s.Numbered) (source target : String) (name : Option String) :
    (s.attachStats source target name).2.Numbered := by
  unfold Session.attachStats
  split
  · exact h
  · next sink hs => exact h.derive source target fun c hc => hc.exchangeStats (sink?_lt h.stats hs)

private theorem attachLogger (h : s.Numbered) (source target : String) (name : Option String) :
    (s.attachLogger source target name).2.Numbered := by
  unfold Session.attachLogger
  split
  · exact h
  · next sink hs => exact h.derive source target fun c hc => hc.exchangeLogger (sink?_lt h.loggers hs)

private theorem takeStats (h : s.Numbered) (source name : String) : (s.takeStats source name).2.Numbered := by
  rw [s.takeStats_snd]
  split
  · exact h
  · next sink hs =>
    obtain ⟨c, hc, hsink⟩ := Option.bind_eq_some_iff.1 hs
    have hlt : sink.id < s.nextId := (h.configs source c hc).stats sink hsink
    exact ⟨h.configs, h.stats.insert name hlt, h.loggers, h.counts, h.journals⟩

private theorem takeLogger (h : s.Numbered) (source name : String) : (s.takeLogger source name).2.Numbered := by
  rw [s.takeLogger_snd]
  split
  · exact h
  · next sink hs =>
    obtain ⟨c, hc, hsink⟩ := Option.bind_eq_some_iff.1 hs
    have hlt : sink.id < s.nextId := (h.configs source c hc).logger sink hsink
    exact ⟨h.configs, h.stats, h.loggers.insert name hlt, h.counts, h.journals⟩

/-- A report leaves a mark only under the number of a sink that has a name. -/
private theorem report (h : s.Numbered) (name : String) (call : StatsCall) : (s.report name call).2.Numbered := by
  unfold Session.report
  split
  · exact h
  · next sink hs =>
    have hlt : sink.id < s.nextId := h.stats name sink hs
    refine ⟨h.configs, h.stats, h.loggers, fun id hid => ?_, fun id hid => ?_⟩
    · have hid : s.nextId ≤ id := hid
      have hne : ¬(sink.kind = .recording ∧ id = sink.id) := fun e => by omega
      rw [SinkStore.countsOf_report, if_neg hne, h.counts id hid]
    · rw [SinkStore.journalOf_report, h.journals id hid]

private theorem log (h : s.Numbered) (name : String) (message : Message) : (s.log name message).2.Numbered := by
  unfold Session.log
  split
  · exact h
  · next sink hs =>
    have hlt : sink.id < s.nextId := h.loggers name sink hs
    refine ⟨h.configs, h.stats, h.loggers, fun id hid => ?_, fun id hid => ?_⟩
    · rw [SinkStore.countsOf_log, h.counts id hid]
    · have hid : s.nextId ≤ id := hid
      have hne : ¬(sink.kind = .recording ∧ id = sink.id) := fun e => by omega
      rw [SinkStore.journalOf_log, if_neg hne, h.journals id hid]

theorem perform (h : s.Numbered) (step : Step) : (s.perform step).2.Numbered := by
  have hlt : s.nextId < s.nextId + 1 := Nat.lt_succ_self _
  cases step with
  | create origin target =>
    have hc : (make origin s.nextId).SinksBelow (s.nextId + 1) := by
      cases origin <;> exact ⟨fun _ hs => Option.some.inj hs ▸ hlt, fun _ hs => Option.some.inj hs ▸ hlt⟩
    exact ⟨h.succ.configs.insert target hc, h.succ.stats, h.succ.loggers, h.succ.counts, h.succ.journals⟩
  | createRecording sinks target =>
    have hc : (Config.recording s.nextId).SinksBelow (s.nextId + 1) :=
      ⟨fun _ hs => Option.some.inj hs ▸ hlt, fun _ hs => Option.some.inj hs ▸ hlt⟩
    exact ⟨h.succ.configs.insert target hc, h.succ.stats.insert sinks hlt, h.succ.loggers.insert sinks hlt,
      h.succ.counts, h.succ.journals⟩
  | copy source target => exact h.derive source target fun _ hc => hc
  | set source target setting => exact h.derive source target fun _ hc => hc.set setting
  | attachStats source target name => exact h.attachStats source target name
  | attachLogger source target name => exact h.attachLogger source target name
  | takeStats source name => exact h.takeStats source name
  | takeLogger source name => exact h.takeLogger source name
  | makeStats kind name =>
    exact ⟨h.succ.configs, h.succ.stats.insert name hlt, h.succ.loggers, h.succ.counts, h.succ.journals⟩
  | makeLogger kind name =>
    exact ⟨h.succ.configs, h.succ.stats, h.succ.loggers.insert name hlt, h.succ.counts, h.succ.journals⟩
  | report name call => exact h.report name call
  | log name message => exact h.log name message
  | _ => exact h

/-! ### Texts of new sinks -/

/-- The next statistics sink looks as if nothing had ever been counted. -/
theorem statsForm_new (h : s.Numbered) (kind : StatsKind) :
    s.store.statsForm { kind, id := s.nextId } = SinkStore.empty.statsForm { kind, id := s.nextId } := by
  have hc : s.store.counts? { kind, id := s.nextId } = SinkStore.empty.counts? { kind, id := s.nextId } := by
    simp only [SinkStore.counts?, h.counts s.nextId (Nat.le_refl _)]
    rfl
  simp only [SinkStore.statsForm, hc]

theorem logForm_new (h : s.Numbered) (held : List Nat) (kind : LogKind) :
    s.store.logForm held { kind, id := s.nextId } = SinkStore.empty.logForm held { kind, id := s.nextId } := by
  have hj : s.store.journal? { kind, id := s.nextId } = SinkStore.empty.journal? { kind, id := s.nextId } := by
    simp only [SinkStore.journal?, h.journals s.nextId (Nat.le_refl _)]
    rfl
  simp only [SinkStore.logForm, hj]

theorem recordingForm_new (h : s.Numbered) (held : List Nat) :
    s.store.recordingForm held (.numbered s.nextId) = SinkStore.empty.recordingForm held (.numbered s.nextId) := by
  simp only [SinkStore.recordingForm, RecordingSinks.numbered, h.statsForm_new, h.logForm_new]

end Numbered

end Session

end StreamConsumer
