import StreamConsumer.Proofs.Reading

/-!
# What errors blame

* (blame) If a chain leads from a valid configuration to one with an error, the chain wrote what the error names.  The
  one exception is a leader action frequency that was not written, but outgrown by a new shard check frequency
  (`Outgrown`).
* (rest) An error stays through every chain that writes only options that later rules read.

Both follow from what rules read: an option that is not written is the same before and after the chain, and the first
broken rule reads nothing but what its error names, the exception apart (`Rule.option_of_mem_reads`).
-/

namespace StreamConsumer

/-- A link of the chain writes the option. -/
def Written (chain : List Link) (f : Field) : Prop := ∃ link ∈ chain, (link.written? f).isSome

namespace Config

theorem get_followAll_of_not_written (c : Config) {chain : List Link} {f : Field} (h : ¬ Written chain f) :
    (c.followAll chain).get f = c.get f := by
  refine c.get_followAll_of_unwritten fun link hl => ?_
  rw [← Option.not_isSome_iff_eq_none]
  exact fun hw => h ⟨link, hl, hw⟩

/-- A chain that writes nothing that a rule reads neither breaks the rule nor repairs it. -/
theorem broken_followAll_iff (c : Config) {chain : List Link} {r : Rule} (h : ∀ f ∈ r.reads, ¬ Written chain f) :
    r.Broken (c.followAll chain) ↔ r.Broken c :=
  Rule.broken_congr fun f hf => c.get_followAll_of_not_written (h f hf)

end Config

/-- The chain leads to a leader action frequency that it did not write, and that is too short only for the shard check
frequency that it wrote. -/
structure Outgrown (c : Config) (chain : List Link) : Prop where
  shardCheckFrequency : Written chain .shardCheckFrequency
  leaderActionFrequency : ¬ Written chain .leaderActionFrequency
  pos : 0 < (c.followAll chain).leaderActionFrequency.totalNanos
  lt : (c.followAll chain).leaderActionFrequency.totalNanos < (c.followAll chain).shardCheckFrequency.totalNanos

/-! ### The first broken rule -/

namespace Rule

/-- Only the rule that compares the frequencies reads an option that its error does not name. -/
theorem option_of_mem_reads {r : Rule} {f : Field} :
    f ∈ r.reads → f.option = r.error.field ∨ r = shardCheckWithinLeaderAction ∧ f = .shardCheckFrequency := by
  cases r <;> cases f <;> decide

variable {c : Config} {chain : List Link} {r : Rule}

/-- If nothing that the error names was written, the rule that was broken on the way compares the frequencies. -/
theorem FirstBroken.outgrown (h : FirstBroken (c.followAll chain) r) (hc : ¬ r.Broken c)
    (hw : ∀ f : Field, f.option = r.error.field → ¬ Written chain f) :
    r = shardCheckWithinLeaderAction ∧ Outgrown c chain := by
  by_cases hread : ∃ f ∈ r.reads, Written chain f
  · obtain ⟨f, hf, hwritten⟩ := hread
    rcases option_of_mem_reads hf with hoption | ⟨rfl, rfl⟩
    · exact absurd hwritten (hw f hoption)
    · refine ⟨rfl, hwritten, hw .leaderActionFrequency rfl, ?_, h.1⟩
      exact Nat.pos_of_ne_zero (h.2 leaderActionFrequencyPositive (by decide))
  · -- a rule that reads nothing that was written was broken before
    have hunread : ∀ f ∈ r.reads, ¬ Written chain f := fun f hf hwritten => hread ⟨f, hf, hwritten⟩
    exact absurd ((c.broken_followAll_iff hunread).1 h.1) hc

/-- The first broken rule stays the first one if all rules that read what was written come after it. -/
theorem FirstBroken.followAll (h : FirstBroken c r)
    (hw : ∀ f, Written chain f → ∀ r' : Rule, f ∈ r'.reads → r.number < r'.number) :
    FirstBroken (c.followAll chain) r := by
  have hkept : ∀ r' : Rule, r'.number ≤ r.number → (r'.Broken (c.followAll chain) ↔ r'.Broken c) := by
    intro r' hle
    refine c.broken_followAll_iff fun f hf hwritten => ?_
    have hlt := hw f hwritten r' hf
    omega
  refine ⟨(hkept r (Nat.le_refl _)).2 h.1, fun r' hlt => ?_⟩
  rw [hkept r' (Nat.le_of_lt hlt)]
  exact h.2 r' hlt

end Rule

theorem Field.eq_leaderActionFrequency {f : Field} :
    f.option = ConfigError.leaderActionFrequencyTooShort.field → f = .leaderActionFrequency := by
  cases f <;> decide

/-- A chain from a valid configuration to an error has written an option that the error names unless, and only unless,
the error is that of a leader action frequency that the chain left alone and outgrew.  An error stays through a chain
if every rule that reads an option written there comes after all rules of the error; so options that no rule reads may
always be written. -/
theorem errors_blame_what_was_written :
    (∀ (c : Config) (chain : List Link) (e : ConfigError), c.validate = .ok () →
        (c.followAll chain).validate = .error e →
        ((∃ f : Field, f.option = e.field ∧ Written chain f) ↔
          ¬(e = .leaderActionFrequencyTooShort ∧ Outgrown c chain))) ∧
      ∀ (c : Config) (chain : List Link) (e : ConfigError), c.validate = .error e →
        (∀ f, Written chain f → ∀ r : Rule, f ∈ r.reads → ∀ r' : Rule, r'.error = e → r'.number < r.number) →
        (c.followAll chain).validate = .error e := by
  refine ⟨fun c chain e hc h => ⟨?_, fun hnot => ?_⟩, fun c chain e h hw => ?_⟩
  · rintro ⟨f, hf, hwritten⟩ ⟨rfl, houtgrown⟩
    rw [Field.eq_leaderActionFrequency hf] at hwritten
    exact houtgrown.leaderActionFrequency hwritten
  · obtain ⟨r, hr, rfl⟩ := (Config.validate_eq_error_iff _ e).1 h
    by_cases hblame : ∃ f : Field, f.option = r.error.field ∧ Written chain f
    · exact hblame
    · have hunwritten : ∀ f : Field, f.option = r.error.field → ¬ Written chain f :=
        fun f hf hwritten => hblame ⟨f, hf, hwritten⟩
      obtain ⟨rfl, houtgrown⟩ := hr.outgrown (c.validate_eq_ok_iff.1 hc r) hunwritten
      exact absurd ⟨rfl, houtgrown⟩ hnot
  · obtain ⟨r, hr, rfl⟩ := (c.validate_eq_error_iff e).1 h
    refine (Config.validate_eq_error_iff _ _).2 ⟨r, hr.followAll fun f hf r' hr' => ?_, rfl⟩
    exact hw f hf r' hr' r rfl

/-- A shard check frequency of two minutes outgrows the leader action frequency of one minute.  The error stays when the
buffer and the sinks are taken away and a start is chosen, and with a leader action frequency of zero the error names
what was written. -/
theorem errors_blame_what_was_written_when_outgrown :
    let c := Config.standard 0
    let longer : List Link := [.change (.set (.shardCheckFrequency (.ofSecs 120))), .copy]
    let zero : List Link := longer ++ [.change (.set (.leaderActionFrequency .zero))]
    let later : List Link :=
      [.change (.set (.bufferSize 0)), .change (.stats none), .change (.set (.start .latest)),
        .change (.set (.checkpointWaiterDelay .zero)), .change (.logger none)]
    let e := ConfigError.leaderActionFrequencyTooShort
    (c.followAll longer).validate = .error e ∧ Outgrown c longer ∧
      (¬ ∃ f : Field, f.option = e.field ∧ Written longer f) ∧
      (∃ f : Field, f.option = e.field ∧ Written zero f) ∧
      ((c.followAll longer).followAll later).validate = .error e := by
  intro c longer zero later e
  obtain ⟨hblame, hstays⟩ := errors_blame_what_was_written
  have herror : (c.followAll longer).validate = .error e := rfl
  have houtgrown : Outgrown c longer :=
    { shardCheckFrequency := ⟨_, List.mem_cons_self, rfl⟩
      leaderActionFrequency := by simp [Written, longer, Link.written?, Change.written?, Setting.written?]
      pos := by decide
      lt := by decide }
  refine ⟨herror, houtgrown, fun h => (hblame c longer e rfl herror).1 h ⟨rfl, houtgrown⟩,
    (hblame c zero e rfl rfl).2 fun h => h.2.leaderActionFrequency ⟨_, List.mem_of_getElem? (i := 2) rfl, rfl⟩,
    hstays _ later e herror ?_⟩
  rintro f ⟨link, hl, hf⟩ r hr r' he
  simp only [later, List.mem_cons, List.not_mem_nil, or_false] at hl
  rcases hl with rfl | rfl | rfl | rfl | rfl <;> cases f <;>
    simp [Link.written?, Change.written?, Setting.written?, StartChoice.written?] at hf <;>
    revert hr he <;> cases r <;> cases r' <;> decide

end StreamConsumer
