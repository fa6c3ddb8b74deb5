import StreamConsumer.Proofs.Run

/-!
# Ledgers

A ledger tells from the steps of a run alone which names and which configurations stand for which sink.  It knows nothing
of kinds, numbers and memories: a sink is told by the place in the run of the step that made it.  The main statement
(`Ledger.reportsTo_eq`, `Ledger.messagesTo_eq`) is that a session hands exactly those calls to the recording sinks made at
a place which the ledger assigns to that place, so no two steps ever make the same sink and no sink is ever copied.
-/

namespace StreamConsumer

/-- The sinks of a configuration, each by the place of the step that made it. -/
structure Holding where
  stats : Option Nat
  logger : Option Nat

structure Ledger where
  /-- The place of the next step. -/
  place : Nat
  configs : Table String Holding
  stats : Table String Nat
  loggers : Table String Nat

namespace Ledger

def empty : Ledger := { place := 0, configs := Table.empty, stats := Table.empty, loggers := Table.empty }

/-! ### Entering steps -/

/-- The target gets what becomes of the source; a source that stands for nothing changes nothing. -/
def derive (l : Ledger) (source target : String) (f : Holding → Holding) : Ledger :=
  match l.configs.find? source with
  | none => l
  | some h => { l with configs := l.configs.insert target (f h) }

/-- What the step does to the names. -/
def rename (l : Ledger) : Step → Ledger
  | .create _ target => { l with configs := l.configs.insert target { stats := some l.place, logger := some l.place } }
  | .createRecording sinks target =>
    { l with
      configs := l.configs.insert target { stats := some l.place, logger := some l.place }
      stats := l.stats.insert sinks l.place
      loggers := l.loggers.insert sinks l.place }
  | .copy source target | .set source target _ => l.derive source target id
  | .attachStats source target name =>
    match Session.sink? l.stats name with
    | none => l
    | some sink => l.derive source target fun h => { h with stats := sink }
  | .attachLogger source target name =>
    match Session.sink? l.loggers name with
    | none => l
    | some sink => l.derive source target fun h => { h with logger := sink }
  | .takeStats source name =>
    match (l.configs.find? source).bind Holding.stats with
    | none => l
    | some maker => { l with stats := l.stats.insert name maker }
  | .takeLogger source name =>
    match (l.configs.find? source).bind Holding.logger with
    | none => l
    | some maker => { l with loggers := l.loggers.insert name maker }
  | .makeStats _ name => { l with stats := l.stats.insert name l.place }
  | .makeLogger _ name => { l with loggers := l.loggers.insert name l.place }
  | _ => l

def enter (l : Ledger) (step : Step) : Ledger := { l.rename step with place := l.place + 1 }

/-! ### Calls by maker -/

/-- The report of a step to the sink that was made at the place `maker`. -/
def report? (l : Ledger) (maker : Nat) : Step → Option StatsCall
  | .report name call => if l.stats.find? name = some maker then some call else none
  | _ => none

def message? (l : Ledger) (maker : Nat) : Step → Option Message
  | .log name message => if l.loggers.find? name = some maker then some message else none
  | _ => none

/-- The reports of a run to the sink that was made at the place `maker`, first to last. -/
def reportsTo (l : Ledger) (maker : Nat) (steps : List Step) : List StatsCall :=
  gather enter (fun l step => l.report? maker step) l steps

def messagesTo (l : Ledger) (maker : Nat) (steps : List Step) : List Message :=
  gather enter (fun l step => l.message? maker step) l steps

end Ledger

/-! ### Tables with the same keys -/

private theorem map_eq_map_cases {α β γ : Type} {f : α → γ} {g : β → γ} {a : Option α} {b : Option β}
    (h : a.map f = b.map g) : a = none ∧ b = none ∨ ∃ x y, a = some x ∧ b = some y ∧ f x = g y := by
  cases a with
  | none => exact Or.inl ⟨rfl, Option.map_eq_none_iff.1 h.symm⟩
  | some x =>
    obtain ⟨y, hy, hxy⟩ := Option.map_eq_some_iff.1 h.symm
    exact Or.inr ⟨x, y, rfl, hy, hxy.symm⟩

namespace Table

variable {α β γ : Type} {f : α → γ} {g : β → γ} {t : Table String α} {u : Table String β}

/-- The tables have the same keys, and their values look the same through `f` and `g`. -/
def Alike (f : α → γ) (g : β → γ) (t : Table String α) (u : Table String β) : Prop :=
  ∀ name, (t.find? name).map f = (u.find? name).map g

theorem Alike.insert (h : Alike f g t u) (name : String) {a : α} {b : β} (hab : f a = g b) :
    Alike f g (t.insert name a) (u.insert name b) := by
  intro key
  simp only [find?_insert]
  split
  · simp [hab]
  · exact h key

/-- Parts of values that look the same look the same. -/
theorem Alike.bind {α' β' δ : Type} {f' : α' → δ} {g' : β' → δ} {p : α → Option α'} {q : β → Option β'}
    (h : Alike f g t u) (name : String) (hpq : ∀ a b, f a = g b → (p a).map f' = (q b).map g') :
    ((t.find? name).bind p).map f' = ((u.find? name).bind q).map g' := by
  rcases map_eq_map_cases (h name) with ⟨ht, hu⟩ | ⟨a, b, ht, hu, hab⟩
  · rw [ht, hu]
    rfl
  · rw [ht, hu]
    exact hpq a b hab

theorem Alike.sink? (h : Alike f g t u) (name : Option String) :
    (Session.sink? t name).map (Option.map f) = (Session.sink? u name).map (Option.map g) := by
  cases name with
  | none => rfl
  | some name =>
    simp only [Session.sink?]
    rcases map_eq_map_cases (h name) with ⟨ht, hu⟩ | ⟨a, b, ht, hu, hab⟩
    · rw [ht, hu]
      rfl
    · rw [ht, hu]
      exact congrArg (fun x => some (some x)) hab

end Table

/-! ### A ledger beside a session -/

/-- Which of the sinks that are there are the ones made at `maker`. -/
def Holding.marks (maker : Nat) (h : Holding) : Option Bool × Option Bool :=
  (h.stats.map (· == maker), h.logger.map (· == maker))

/-- Which of the sinks that are there are these two. -/
def Config.marks (own : RecordingSinks) (c : Config) : Option Bool × Option Bool :=
  (c.stats.map (· == own.stats), c.logger.map (· == own.logger))

/-- The names and configurations that stand for the sinks made at `maker` are those that stand for the sinks of the
number `k`. -/
structure Marks (maker k : Nat) (l : Ledger) (s : Session) : Prop where
  configs : Table.Alike (Holding.marks maker) (Config.marks (.numbered k)) l.configs s.configs
  stats : Table.Alike (· == maker) (· == (RecordingSinks.numbered k).stats) l.stats s.stats
  loggers : Table.Alike (· == maker) (· == (RecordingSinks.numbered k).logger) l.loggers s.loggers

/-- The step makes sinks of the number `k` only at the place `maker`, and there it makes recording sinks. -/
def Fits (maker k : Nat) (l : Ledger) (s : Session) (step : Step) : Prop :=
  if l.place = maker then s.nextId = k ∧ ∃ sinks target, step = .createRecording sinks target
  else step.makesSinks = true → s.nextId ≠ k

section Step

variable {maker k : Nat} {l : Ledger} {s : Session}

theorem marks_empty (maker k : Nat) : Marks maker k Ledger.empty Session.empty :=
  ⟨fun _ => rfl, fun _ => rfl, fun _ => rfl⟩

private theorem Fits.apart {step : Step} (h : Fits maker k l s step) (hm : step.makesSinks = true)
    (hc : ∀ sinks target, step ≠ .createRecording sinks target) : (l.place == maker) = false ∧ s.nextId ≠ k := by
  unfold Fits at h
  by_cases hp : l.place = maker
  · rw [if_pos hp] at h
    obtain ⟨-, sinks, target, hs⟩ := h
    exact absurd hs (hc sinks target)
  · rw [if_neg hp] at h
    exact ⟨beq_eq_false_iff_ne.2 hp, h hm⟩

private theorem Fits.place_iff {sinks target : String} (h : Fits maker k l s (.createRecording sinks target)) :
    (l.place == maker) = (s.nextId == k) := by
  unfold Fits at h
  by_cases hp : l.place = maker
  · rw [if_pos hp] at h
    rw [hp, h.1, beq_self_eq_true, beq_self_eq_true]
  · rw [if_neg hp] at h
    rw [beq_eq_false_iff_ne.2 hp, beq_eq_false_iff_ne.2 (h rfl)]

/-- What a configuration becomes is marked like what its entry becomes. -/
private theorem Marks.derive (h : Marks maker k l s) (source target : String) {f : Holding → Holding}
    {g : Config → Config}
    (hfg : ∀ e c, Holding.marks maker e = Config.marks (.numbered k) c →
      Holding.marks maker (f e) = Config.marks (.numbered k) (g c)) :
    Marks maker k (l.derive source target f) (s.derive source target g).2 := by
  unfold Ledger.derive Session.derive
  rcases map_eq_map_cases (h.configs source) with ⟨hl, hs⟩ | ⟨e, c, hl, hs, he⟩
  · rw [hl, hs]
    exact h
  · rw [hl, hs]
    exact ⟨h.configs.insert target (hfg e c he), h.stats, h.loggers⟩

private theorem Marks.attachStats (h : Marks maker k l s) (source target : String) (name : Option String) :
    Marks maker k (l.rename (.attachStats source target name)) (s.attachStats source target name).2 := by
  simp only [Ledger.rename, Session.attachStats]
  rcases map_eq_map_cases (h.stats.sink? name) with ⟨hl, hs⟩ | ⟨sink, sink', hl, hs, he⟩
  · rw [hl, hs]
    exact h
  · rw [hl, hs]
    exact h.derive source target fun e c hec => Prod.ext he (Prod.mk.inj hec).2

private theorem Marks.attachLogger (h : Marks maker k l s) (source target : String) (name : Option String) :
    Marks maker k (l.rename (.attachLogger source target name)) (s.attachLogger source target name).2 := by
  simp only [Ledger.rename, Session.attachLogger]
  rcases map_eq_map_cases (h.loggers.sink? name) with ⟨hl, hs⟩ | ⟨sink, sink', hl, hs, he⟩
  · rw [hl, hs]
    exact h
  · rw [hl, hs]
    exact h.derive source target fun e c hec => Prod.ext (Prod.mk.inj hec).1 he

private theorem Marks.takeStats (h : Marks maker k l s) (source name : String) :
    Marks maker k (l.rename (.takeStats source name)) (s.takeStats source name).2 := by
  have hheld : ((l.configs.find? source).bind Holding.stats).map (· == maker) =
      ((s.configs.find? source).bind Config.stats).map (· == (RecordingSinks.numbered k).stats) :=
    h.configs.bind source fun _ _ he => (Prod.mk.inj he).1
  rw [s.takeStats_snd]
  simp only [Ledger.rename]
  rcases map_eq_map_cases hheld with ⟨hl, hs⟩ | ⟨place, sink, hl, hs, hmark⟩
  · rw [hl, hs]
    exact h
  · rw [hl, hs]
    exact ⟨h.configs, h.stats.insert name hmark, h.loggers⟩

private theorem Marks.takeLogger (h : Marks maker k l s) (source name : String) :
    Marks maker k (l.rename (.takeLogger source name)) (s.takeLogger source name).2 := by
  have hheld : ((l.configs.find? source).bind Holding.logger).map (· == maker) =
      ((s.configs.find? source).bind Config.logger).map (· == (RecordingSinks.numbered k).logger) :=
    h.configs.bind source fun _ _ he => (Prod.mk.inj he).2
  rw [s.takeLogger_snd]
  simp only [Ledger.rename]
  rcases map_eq_map_cases hheld with ⟨hl, hs⟩ | ⟨place, sink, hl, hs, hmark⟩
  · rw [hl, hs]
    exact h
  · rw [hl, hs]
    exact ⟨h.configs, h.stats, h.loggers.insert name hmark⟩

/-- A sink of another number is not the recording one of the number `k`. -/
private theorem stats_beq_eq_false {kind : StatsKind} {id : Nat} (h : id ≠ k) :
    (({ kind, id } : StatsSink) == (RecordingSinks.numbered k).stats) = false :=
  beq_eq_false_iff_ne.2 fun e => h (congrArg StatsSink.id e)

private theorem logger_beq_eq_false {kind : LogKind} {id : Nat} (h : id ≠ k) :
    (({ kind, id } : LogSink) == (RecordingSinks.numbered k).logger) = false :=
  beq_eq_false_iff_ne.2 fun e => h (congrArg LogSink.id e)

private theorem stats_beq_eq (id : Nat) :
    ((RecordingSinks.numbered id).stats == (RecordingSinks.numbered k).stats) = (id == k) := by
  rw [Bool.eq_iff_iff, beq_iff_eq, beq_iff_eq]
  simp [RecordingSinks.numbered]

private theorem logger_beq_eq (id : Nat) :
    ((RecordingSinks.numbered id).logger == (RecordingSinks.numbered k).logger) = (id == k) := by
  rw [Bool.eq_iff_iff, beq_iff_eq, beq_iff_eq]
  simp [RecordingSinks.numbered]

/-- The same marks stand after a step that fits. -/
theorem Marks.perform (h : Marks maker k l s) {step : Step} (hf : Fits maker k l s step) :
    Marks maker k (l.enter step) (s.perform step).2 := by
  suffices hr : Marks maker k (l.rename step) (s.perform step).2 from ⟨hr.configs, hr.stats, hr.loggers⟩
  cases step with
  | create origin target =>
    obtain ⟨hp, hk⟩ := hf.apart rfl nofun
    refine ⟨h.configs.insert target ?_, h.stats, h.loggers⟩
    cases origin <;>
      exact Prod.ext (congrArg some (hp.trans (stats_beq_eq_false hk).symm))
        (congrArg some (hp.trans (logger_beq_eq_false hk).symm))
  | createRecording sinks target =>
    -- only here may the two numbers meet, and they meet in both halves or in none
    have hs := hf.place_iff.trans (stats_beq_eq s.nextId).symm
    have hl := hf.place_iff.trans (logger_beq_eq s.nextId).symm
    exact ⟨h.configs.insert target (Prod.ext (congrArg some hs) (congrArg some hl)), h.stats.insert sinks hs,
      h.loggers.insert sinks hl⟩
  | copy source target => exact h.derive source target fun _ _ he => he
  | set source target setting => exact h.derive source target fun _ c he => by cases setting <;> exact he
  | attachStats source target name => exact h.attachStats source target name
  | attachLogger source target name => exact h.attachLogger source target name
  | takeStats source name => exact h.takeStats source name
  | takeLogger source name => exact h.takeLogger source name
  | makeStats kind name =>
    obtain ⟨hp, hk⟩ := hf.apart rfl nofun
    exact ⟨h.configs, h.stats.insert name (hp.trans (stats_beq_eq_false hk).symm), h.loggers⟩
  | makeLogger kind name =>
    obtain ⟨hp, hk⟩ := hf.apart rfl nofun
    exact ⟨h.configs, h.stats, h.loggers.insert name (hp.trans (logger_beq_eq_false hk).symm)⟩
  | report name call =>
    simp only [Session.perform, Session.report, Ledger.rename]
    split <;> exact ⟨h.configs, h.stats, h.loggers⟩
  | log name message =>
    simp only [Session.perform, Session.log, Ledger.rename]
    split <;> exact ⟨h.configs, h.stats, h.loggers⟩
  | _ => exact h

private theorem eq_some_iff_of_map_beq {α β : Type} [BEq α] [LawfulBEq α] [BEq β] [LawfulBEq β] {a : Option α}
    {b : Option β} {x : α} {y : β} (h : a.map (· == x) = b.map (· == y)) : a = some x ↔ b = some y := by
  rcases map_eq_map_cases h with ⟨rfl, rfl⟩ | ⟨x', y', rfl, rfl, he⟩
  · simp
  · rw [Option.some.injEq, Option.some.injEq, ← beq_iff_eq (a := x'), he, beq_iff_eq]

theorem Marks.report?_eq (h : Marks maker k l s) (step : Step) :
    l.report? maker step = s.report? (RecordingSinks.numbered k).stats step := by
  cases step with
  | report name call => simp only [Ledger.report?, Session.report?, eq_some_iff_of_map_beq (h.stats name)]
  | _ => rfl

theorem Marks.message?_eq (h : Marks maker k l s) (step : Step) :
    l.message? maker step = s.message? (RecordingSinks.numbered k).logger step := by
  cases step with
  | log name message => simp only [Ledger.message?, Session.message?, eq_some_iff_of_map_beq (h.loggers name)]
  | _ => rfl

end Step

/-! ### A ledger along a run -/

/-- Every step of the run fits where it stands. -/
def FitsAll (maker k : Nat) (l : Ledger) (s : Session) : List Step → Prop
  | [] => True
  | step :: steps => Fits maker k l s step ∧ FitsAll maker k (l.enter step) (s.perform step).2 steps

section Run

variable {maker k : Nat} {l : Ledger} {s : Session}

theorem Marks.reportsTo_eq (h : Marks maker k l s) {steps : List Step} (hf : FitsAll maker k l s steps) :
    l.reportsTo maker steps = s.reportsTo (RecordingSinks.numbered k).stats steps := by
  refine gather_eq (R := fun l s steps => Marks maker k l s ∧ FitsAll maker k l s steps) ?_ ⟨h, hf⟩
  intro l s step steps ⟨h, hf⟩
  exact ⟨h.report?_eq step, h.perform hf.1, hf.2⟩

theorem Marks.messagesTo_eq (h : Marks maker k l s) {steps : List Step} (hf : FitsAll maker k l s steps) :
    l.messagesTo maker steps = s.messagesTo (RecordingSinks.numbered k).logger steps := by
  refine gather_eq (R := fun l s steps => Marks maker k l s ∧ FitsAll maker k l s steps) ?_ ⟨h, hf⟩
  intro l s step steps ⟨h, hf⟩
  exact ⟨h.message?_eq step, h.perform hf.1, hf.2⟩

/-- Once the sinks are made, no later step makes sinks of their number. -/
theorem fitsAll_of_lt (hp : maker < l.place) (hk : k < s.nextId) (steps : List Step) : FitsAll maker k l s steps := by
  induction steps generalizing l s with
  | nil => trivial
  | cons step steps ih =>
    constructor
    · unfold Fits
      rw [if_neg (by omega)]
      omega
    · have hle := s.nextId_le_after [step]
      exact ih (Nat.lt_succ_of_lt hp) (Nat.lt_of_lt_of_le hk hle)

/-- No step before the sinks are made makes sinks of their number. -/
theorem fitsAll_of_making {before : List Step} (sinks target : String) (after : List Step)
    (hp : l.place + before.length = maker) (hk : (s.after before).nextId = k) :
    FitsAll maker k l s (before ++ .createRecording sinks target :: after) := by
  induction before generalizing l s with
  | nil =>
    have hp : l.place = maker := hp
    constructor
    · unfold Fits
      rw [if_pos hp]
      exact ⟨hk, sinks, target, rfl⟩
    · exact fitsAll_of_lt (hp ▸ Nat.lt_succ_self l.place) (hk ▸ Nat.lt_succ_self s.nextId) after
  | cons step before ih =>
    rw [List.length_cons] at hp
    constructor
    · unfold Fits
      rw [if_neg (by omega)]
      -- the step uses up a number, so that the number of the sinks is a later one
      intro hm
      have h1 := (s.frame_perform step).nextId
      have h2 := (s.perform step).2.nextId_le_after before
      rw [if_pos hm] at h1
      rw [Session.after_cons] at hk
      omega
    · refine ih ?_ hk
      show l.place + 1 + before.length = maker
      omega

end Run

namespace Ledger

variable (before after : List Step) (sinks target : String)

/-- The reports that a ledger assigns to a place reach the recording sink that was made there, and no others do. -/
theorem reportsTo_eq :
    empty.reportsTo before.length (before ++ .createRecording sinks target :: after) =
      Session.empty.reportsTo (RecordingSinks.numbered (Session.empty.after before).nextId).stats
        (before ++ .createRecording sinks target :: after) :=
  (marks_empty _ _).reportsTo_eq (fitsAll_of_making sinks target after (Nat.zero_add _) rfl)

theorem messagesTo_eq :
    empty.messagesTo before.length (before ++ .createRecording sinks target :: after) =
      Session.empty.messagesTo (RecordingSinks.numbered (Session.empty.after before).nextId).logger
        (before ++ .createRecording sinks target :: after) :=
  (marks_empty _ _).messagesTo_eq (fitsAll_of_making sinks target after (Nat.zero_add _) rfl)

example :
    let steps : List Step :=
      [.createRecording "a" "c", .createRecording "b" "d", .attachStats "c" "e" (some "b"), .takeStats "e" "f",
        .report "f" .checkpoint]
    Ledger.empty.reportsTo 0 steps = [] ∧ Ledger.empty.reportsTo 1 steps = [.checkpoint] := ⟨rfl, rfl⟩

end Ledger

end StreamConsumer
