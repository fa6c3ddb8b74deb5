import StreamConsumer.Proofs.LastWriter
import StreamConsumer.Proofs.Reading

/-!
# Equality of configurations

Two configurations are equal if they agree option by option and hold the very same sinks (`Config.same`); this is what the
comparison of a session answers (`Session.answer_compare`).  Equal configurations cannot be told apart by any chain.
Configurations that a run makes from nothing at two places of it get sinks of different numbers
(`Session.Descends.nextId_lt`), so whatever becomes of them they differ until these sinks are exchanged
(`equality_by_identity`).
-/

namespace StreamConsumer

theorem sameSink_iff {α : Type} [DecidableEq α] (a b : Option α) : sameSink a b ↔ a = b := by
  cases a <;> cases b <;> simp [sameSink]

namespace Config

variable {a b c : Config}

/-- No option is forgotten in the comparison. -/
theorem same_iff_get_eq : a.same b ↔ ∀ f, a.get f = b.get f := by
  simp only [same, Bool.and_eq_true, decide_eq_true_eq, sameSink_iff, and_assoc]
  constructor
  · rintro ⟨hstats, hlogger, hthrottle, hcommit, hshard, hleader, hbuffer, hread, hwrite, hwaiter, hmode, htime,
      hnumber⟩ f
    cases f with
    | stats => exact hstats
    | logger => exact hlogger
    | throttleDelay => exact hthrottle
    | commitFrequency => exact hcommit
    | shardCheckFrequency => exact hshard
    | leaderActionFrequency => exact hleader
    | bufferSize => exact hbuffer
    | checkpointReadCapacity => exact hread
    | checkpointWriteCapacity => exact hwrite
    | checkpointWaiterDelay => exact hwaiter
    | startMode => exact hmode
    | timestamp => exact htime
    | sequenceNumber => exact hnumber
  · intro h
    exact ⟨h .stats, h .logger, h .throttleDelay, h .commitFrequency, h .shardCheckFrequency,
      h .leaderActionFrequency, h .bufferSize, h .checkpointReadCapacity, h .checkpointWriteCapacity,
      h .checkpointWaiterDelay, h .startMode, h .timestamp, h .sequenceNumber⟩

theorem same_iff_eq : a.same b ↔ a = b := by
  rw [same_iff_get_eq]
  constructor
  · exact eq_of_get_eq
  · rintro rfl f
    rfl

/-- Equal configurations stay equal along a chain: each option has the same last writer, or the same value in the base. -/
theorem same_followAll (h : a.same b) (chain : List Link) : (a.followAll chain).same (b.followAll chain) := by
  rw [same_iff_get_eq] at h ⊢
  intro f
  rw [get_followAll, get_followAll, h f]

theorem validate_eq_of_same (h : a.same b) : a.validate = b.validate :=
  validate_congr fun _ => Rule.broken_congr fun f _ => same_iff_get_eq.1 h f

theorem startPosition_eq_of_same (h : a.same b) (checkpoint : Option String) :
    a.startPosition checkpoint = b.startPosition checkpoint := by
  rw [same_iff_eq.1 h]

/-- With the same sinks attached to both, the other options decide the comparison. -/
theorem same_exchange_iff (stats : Option StatsSink) (logger : Option LogSink) :
    ((a.apply (.stats stats)).apply (.logger logger)).same ((b.apply (.stats stats)).apply (.logger logger)) ↔
      ∀ f, f ≠ .stats → f ≠ .logger → a.get f = b.get f := by
  rw [same_iff_get_eq]
  constructor
  · intro h f hs hl
    have hf := h f
    cases f with
    | stats => exact absurd rfl hs
    | logger => exact absurd rfl hl
    | _ => exact hf
  · intro h f
    have hf := h f
    cases f with
    | stats => rfl
    | logger => rfl
    | _ => exact hf (by decide) (by decide)

/-- Instants are compared part by part, so that a leap second differs from the second after it. -/
theorem same_atTimestamp_iff (t t' : Instant) :
    (a.apply (.set (.start (.atTimestamp t)))).same (a.apply (.set (.start (.atTimestamp t')))) ↔
      t.secs = t'.secs ∧ t.nanos = t'.nanos := by
  rw [same_iff_get_eq]
  constructor
  · intro h
    have ht : some t = some t' := h .timestamp
    cases ht
    exact ⟨rfl, rfl⟩
  · rintro ⟨hs, hn⟩ f
    rw [(Instant.eq_iff t t').2 ⟨hs, hn⟩]

end Config

/-! ### Comparison in a session -/

namespace Session

variable {s : Session}

theorem answer_compare {x y : String} {a b : Config} (ha : s.configs.find? x = some a)
    (hb : s.configs.find? y = some b) : (s.perform (.compare x y)).1 = .equal (a.same b) := by
  simp only [perform, read, ha, hb]

/-- A configuration equals its copy. -/
theorem answer_compare_copy {x y : String} {c : Config} (hc : s.configs.find? x = some c) :
    ((s.perform (.copy x y)).2.perform (.compare x y)).1 = .equal true := by
  have hcopy : (s.perform (.copy x y)).2.configs = s.configs.insert y c := by
    simp [perform, derive, bind, hc]
  have hx : (s.perform (.copy x y)).2.configs.find? x = some c := by
    rw [hcopy, Table.find?_insert]
    split
    · rfl
    · exact hc
  have hy : (s.perform (.copy x y)).2.configs.find? y = some c := by
    rw [hcopy, Table.find?_insert, if_pos rfl]
  rw [answer_compare hx hy, Config.same_iff_eq.2 rfl]

end Session

/-! ### Configurations made from nothing -/

namespace Preset

theorem get_sink_ne (preset preset' : Preset) {id id' : Nat} (hne : id ≠ id') {f : Field}
    (hf : f = .stats ∨ f = .logger) : (preset.config id).get f ≠ (preset'.config id').get f := by
  have hstats : (preset.config id).stats.map StatsSink.id = some id := by cases preset <;> rfl
  have hstats' : (preset'.config id').stats.map StatsSink.id = some id' := by cases preset' <;> rfl
  have hlogger : (preset.config id).logger.map LogSink.id = some id := by cases preset <;> rfl
  have hlogger' : (preset'.config id').logger.map LogSink.id = some id' := by cases preset' <;> rfl
  rcases hf with rfl | rfl
  · intro (h : (preset.config id).stats = (preset'.config id').stats)
    rw [h, hstats'] at hstats
    exact hne (Option.some.inj hstats).symm
  · intro (h : (preset.config id).logger = (preset'.config id').logger)
    rw [h, hlogger'] at hlogger
    exact hne (Option.some.inj hlogger).symm

/-- Chains from presets with sinks of different numbers lead to different configurations while neither of them exchanges
the sinks of one kind. -/
theorem same_followAll_eq_false (preset preset' : Preset) {id id' : Nat} (hne : id ≠ id') {chain chain' : List Link}
    {f : Field} (hf : f = .stats ∨ f = .logger) (h : ∀ link ∈ chain ++ chain', link.written? f = none) :
    ((preset.config id).followAll chain).same ((preset'.config id').followAll chain') = false := by
  rw [← Bool.not_eq_true, Config.same_iff_get_eq]
  intro heq
  have hget := heq f
  rw [Config.get_followAll_of_unwritten _ fun link hl => h link (List.mem_append_left _ hl),
    Config.get_followAll_of_unwritten _ fun link hl => h link (List.mem_append_right _ hl)] at hget
  exact preset.get_sink_ne preset' hne hf hget

end Preset

/-- The preset and the target of a step that makes a configuration from nothing. -/
def Step.preset? : Step → Option (Preset × String)
  | create .standard target => some (.standard, target)
  | create .testing target => some (.testing, target)
  | createRecording _ target => some (.recording, target)
  | _ => none

namespace Session

variable {s : Session}

theorem find?_configs_perform_of_preset? {step : Step} {preset : Preset} {target : String}
    (h : step.preset? = some (preset, target)) :
    (s.perform step).2.configs.find? target = some (preset.config s.nextId) := by
  cases step with
  | create origin name =>
    cases origin with
    | standard =>
      cases h
      simp [perform, create, bind, make, Preset.config]
    | testing =>
      cases h
      simp [perform, create, bind, make, Preset.config]
  | createRecording sinks name =>
    cases h
    simp [perform, createRecording, bind, Preset.config]
  | _ => cases h

theorem nextId_perform_of_preset? {step : Step} (h : step.preset?.isSome) :
    (s.perform step).2.nextId = s.nextId + 1 := by
  rw [(s.frame_perform step).nextId, if_pos]
  cases step with
  | create origin target => rfl
  | createRecording sinks target => rfl
  | _ => cases h

/-- The step at this place of the run makes a configuration from nothing, and what the run calls `name` in the end comes
from it along the chain. -/
def Descends (s : Session) (steps : List Step) (place : Nat) (chain : List Link) (name : String) : Prop :=
  ∃ making preset target, steps[place]? = some making ∧ making.preset? = some (preset, target) ∧
    (s.after (steps.take (place + 1))).Derives target (steps.drop (place + 1)) chain name

namespace Descends

variable {steps : List Step} {place : Nat} {chain : List Link} {name : String}

private theorem after_take_succ {making : Step} (h : steps[place]? = some making) :
    s.after (steps.take (place + 1)) = ((s.after (steps.take place)).perform making).2 := by
  rw [List.take_add_one, h, after_append]
  rfl

/-- The number of the sinks is the one that was next before the configuration was made. -/
theorem find?_configs (h : s.Descends steps place chain name) :
    ∃ preset : Preset, (s.after steps).configs.find? name =
      some ((preset.config (s.after (steps.take place)).nextId).followAll chain) := by
  obtain ⟨making, preset, target, hplace, hpreset, hderives⟩ := h
  have hmade : (s.after (steps.take (place + 1))).configs.find? target =
      some (preset.config (s.after (steps.take place)).nextId) := by
    rw [after_take_succ hplace]
    exact find?_configs_perform_of_preset? hpreset
  refine ⟨preset, ?_⟩
  rw [← hderives.find?_configs hmade, ← after_append, List.take_append_drop]

/-- A configuration that is made at a later place gets sinks of a higher number. -/
theorem nextId_lt (h : s.Descends steps place chain name) {later : Nat} (hlt : place < later) :
    (s.after (steps.take place)).nextId < (s.after (steps.take later)).nextId := by
  obtain ⟨making, preset, target, hplace, hpreset, -⟩ := h
  have hsome : making.preset?.isSome := by rw [hpreset]; rfl
  have hsplit : steps.take later = steps.take (place + 1) ++ (steps.take later).drop (place + 1) := by
    have htake : (steps.take later).take (place + 1) = steps.take (place + 1) := by
      rw [List.take_take, Nat.min_eq_left hlt]
    rw [← htake, List.take_append_drop]
  have hle := nextId_le_after (s.after (steps.take (place + 1))) ((steps.take later).drop (place + 1))
  rw [← after_append, ← hsplit, after_take_succ hplace, nextId_perform_of_preset? hsome] at hle
  exact hle

/-- Sinks made at different places have different numbers. -/
theorem nextId_ne {place' : Nat} {chain' : List Link} {name' : String} (h : s.Descends steps place chain name)
    (h' : s.Descends steps place' chain' name') (hne : place ≠ place') :
    (s.after (steps.take place)).nextId ≠ (s.after (steps.take place')).nextId := by
  rcases Nat.lt_or_gt_of_ne hne with hlt | hgt
  · exact Nat.ne_of_lt (h.nextId_lt hlt)
  · exact Nat.ne_of_gt (h'.nextId_lt hgt)

/-- Configurations that come from two places of a run differ while the sinks of one kind are those they were made with. -/
theorem answer_compare_eq_false {place' : Nat} {chain' : List Link} {name' : String}
    (h : s.Descends steps place chain name) (h' : s.Descends steps place' chain' name') (hne : place ≠ place')
    {f : Field} (hf : f = .stats ∨ f = .logger) (hsinks : ∀ link ∈ chain ++ chain', link.written? f = none) :
    ((s.after steps).perform (.compare name name')).1 = .equal false := by
  obtain ⟨preset, hc⟩ := h.find?_configs
  obtain ⟨preset', hc'⟩ := h'.find?_configs
  rw [answer_compare hc hc', preset.same_followAll_eq_false preset' (h.nextId_ne h' hne) hf hsinks]

end Descends

end Session

/-- Comparison is an equivalence that compares option by option, sinks by identity and instants part by part.  It is what
a session answers, and a copy compares equal to its source.  What compares equal stays so along every chain, with one
verdict and the same start positions.  Configurations made by two steps of a run never compare equal while either the
statistics sinks or the log sinks of both are those they were made with; with the same sinks attached to both, all
other options decide. -/
theorem equality_by_identity :
    ((∀ a : Config, a.same a) ∧ (∀ a b : Config, a.same b → b.same a) ∧
        ∀ a b c : Config, a.same b → b.same c → a.same c) ∧
      (∀ a b : Config, a.same b ↔ ∀ f, a.get f = b.get f) ∧
      (∀ (c : Config) (t t' : Instant),
        (c.apply (.set (.start (.atTimestamp t)))).same (c.apply (.set (.start (.atTimestamp t')))) ↔
          t.secs = t'.secs ∧ t.nanos = t'.nanos) ∧
      (∀ a b : Config, a.same b → ∀ chain : List Link,
        (a.followAll chain).same (b.followAll chain) ∧
          (a.followAll chain).validate = (b.followAll chain).validate ∧
          ∀ checkpoint, (a.followAll chain).startPosition checkpoint = (b.followAll chain).startPosition checkpoint) ∧
      (∀ (s : Session) (x y : String) (a b : Config), s.configs.find? x = some a → s.configs.find? y = some b →
        (s.perform (.compare x y)).1 = .equal (a.same b) ∧
          ((s.perform (.copy x y)).2.perform (.compare x y)).1 = .equal true) ∧
      (∀ (s : Session) (steps : List Step) (place place' : Nat) (chain chain' : List Link) (name name' : String),
        s.Descends steps place chain name → s.Descends steps place' chain' name' → place ≠ place' →
        ∀ f : Field, f = .stats ∨ f = .logger → (∀ link ∈ chain ++ chain', link.written? f = none) →
          ((s.after steps).perform (.compare name name')).1 = .equal false) ∧
      ∀ (a b : Config) (stats : Option StatsSink) (logger : Option LogSink),
        ((a.apply (.stats stats)).apply (.logger logger)).same ((b.apply (.stats stats)).apply (.logger logger)) ↔
          ∀ f, f ≠ .stats → f ≠ .logger → a.get f = b.get f := by
  refine ⟨⟨fun a => ?_, fun a b h => ?_, fun a b c h h' => ?_⟩, fun a b => Config.same_iff_get_eq,
    fun c t t' => Config.same_atTimestamp_iff t t', fun a b h chain => ?_, fun s x y a b ha hb => ?_,
    fun s steps place place' chain chain' name name' h h' hne f => h.answer_compare_eq_false h' hne,
    fun a b => Config.same_exchange_iff⟩
  · exact Config.same_iff_get_eq.2 fun f => rfl
  · rw [Config.same_iff_get_eq] at h ⊢
    exact fun f => (h f).symm
  · rw [Config.same_iff_get_eq] at h h' ⊢
    exact fun f => (h f).trans (h' f)
  · have hchain := Config.same_followAll h chain
    exact ⟨hchain, Config.validate_eq_of_same hchain, Config.startPosition_eq_of_same hchain⟩
  · exact ⟨Session.answer_compare ha hb, Session.answer_compare_copy ha⟩

/-- Two default configurations, one copied and one given the default buffer size anew, differ by their sinks alone; with
no sinks they are equal. -/
theorem equality_by_identity_of_two_defaults :
    let steps : List Step :=
      [.create .standard "a", .create .standard "b", .copy "a" "c", .log "x" (.unformattable "half"),
        .set "b" "b" (.bufferSize 100)]
    let s := Session.empty.after steps
    let again : Link := .change (.set (.bufferSize 100))
    let a := (Config.standard 0).follow again
    Session.empty.Descends steps 0 [.copy] "c" ∧ Session.empty.Descends steps 1 [again] "b" ∧
      (s.perform (.compare "c" "b")).1 = .equal false ∧ (s.perform (.compare "a" "c")).1 = .equal true ∧
      (Config.standard 0).same a ∧ (a.follow again).validate = ((Config.standard 0).follow again).validate ∧
      ((a.apply (.stats none)).apply (.logger none)).same
        (((Config.standard 1).apply (.stats none)).apply (.logger none)) := by
  intro steps s again a
  obtain ⟨⟨-, hsymm, -⟩, -, -, hchain, hanswer, hplaces, hexchange⟩ := equality_by_identity
  have hc : Session.empty.Descends steps 0 [.copy] "c" :=
    ⟨_, .standard, "a", rfl, rfl, .skip (by simp [Step.target?]) (.link rfl (.skip (by simp [Step.target?])
      (.skip (by simp [Step.target?]) (.done _ _))))⟩
  have hb : Session.empty.Descends steps 1 [again] "b" :=
    ⟨_, .standard, "b", rfl, rfl, .skip (by simp [Step.target?]) (.skip (by simp [Step.target?])
      (.link rfl (.done _ _)))⟩
  have ha : a.same (Config.standard 0) := rfl
  have hstats : ∀ link ∈ [.copy] ++ [again], Link.written? link .stats = none := by
    simp [again, Link.written?, Change.written?, Setting.written?]
  refine ⟨hc, hb, ?_, (hanswer s "a" "c" _ _ rfl rfl).1, hsymm _ _ ha, (hchain _ _ ha [again]).2.1, ?_⟩
  · exact hplaces _ steps 0 1 _ _ "c" "b" hc hb (by decide) .stats (Or.inl rfl) hstats
  · refine (hexchange a (Config.standard 1) none none).2 fun f hs hl => ?_
    cases f with
    | stats => exact absurd rfl hs
    | logger => exact absurd rfl hl
    | _ => rfl

end StreamConsumer
