import StreamConsumer.Proofs.Chain

/-!
# The start of a configuration

Companion values of a start mode stay when the mode changes, and no stale one is ever used.  A configuration that comes
from a preset along a chain is in a settled state (`StartOptions.Settled`): its mode has the companion it was set with.
So without a checkpoint the start position is the one that the last choice of the chain asks for.
-/

namespace StreamConsumer

/-- The position that a choice of the start asks for, whatever was chosen before. -/
def StartChoice.position : StartChoice → StartPosition
  | atTimestamp instant => .atTimestamp instant
  | latest | atSequenceNumber _ => .latest
  | afterSequenceNumber number => if number = "" then .trimHorizon else .afterSequenceNumber number
  | trimHorizon => .trimHorizon

theorem filled?_eq_none_iff {text : Option String} : filled? text = none ↔ text = none ∨ text = some "" := by
  cases text with
  | none => simp [filled?]
  | some s => simp [filled?, Option.filter_eq_none_iff]

namespace StartOptions

/-- No mode waits for a sequence number to start at, and a mode that starts at an instant has one. -/
structure Settled (o : StartOptions) : Prop where
  mode_ne : o.mode ≠ .atSequenceNumber
  timestamp_isSome : o.mode = .atTimestamp → o.timestamp.isSome

/-- Every choice settles the start, also on options that were not settled. -/
theorem settled_choose (o : StartOptions) (choice : StartChoice) : (o.choose choice).Settled := by
  cases choice with
  | atTimestamp instant => exact ⟨by simp [choose], fun _ => rfl⟩
  | _ => exact ⟨by simp [choose], by simp [choose]⟩

/-! ### Positions -/

theorem position_of_checkpoint (o : StartOptions) {s : String} (hs : s ≠ "") :
    o.position (some s) = .afterSequenceNumber s := by
  have hf : filled? (some s) = some s := filled?_eq_some_iff.2 ⟨rfl, hs⟩
  simp only [position, hf]

theorem position_of_no_checkpoint (o : StartOptions) {checkpoint : Option String}
    (h : checkpoint = none ∨ checkpoint = some "") : o.position checkpoint = o.requested?.getD .trimHorizon := by
  simp only [position, filled?_eq_none_iff.2 h]

/-- What was chosen before has no effect on what a choice asks for. -/
theorem requested?_choose (o : StartOptions) (choice : StartChoice) :
    (o.choose choice).requested?.getD .trimHorizon = choice.position := by
  cases choice with
  | afterSequenceNumber number =>
    by_cases hn : number = ""
    · subst hn
      rfl
    · have hf : filled? (some number) = some number := filled?_eq_some_iff.2 ⟨rfl, hn⟩
      simp only [choose, requested?, hf, StartChoice.position, if_neg hn]
      rfl
  | _ => rfl

/-- Settled options never ask to start at a sequence number. -/
theorem Settled.position_ne {o : StartOptions} (h : o.Settled) (checkpoint : Option String) (number : String) :
    o.position checkpoint ≠ .atSequenceNumber number := by
  unfold position requested?
  cases filled? checkpoint with
  | some s => simp
  | none =>
    cases hm : o.mode with
    | atSequenceNumber => exact absurd hm h.mode_ne
    | afterSequenceNumber => cases filled? o.sequenceNumber <;> simp
    | atTimestamp => cases o.timestamp <;> simp
    | _ => simp

/-- Settled options that start at an instant do not fall back. -/
theorem Settled.position_atTimestamp {o : StartOptions} (h : o.Settled) (hm : o.mode = .atTimestamp) :
    ∃ t, o.timestamp = some t ∧
      ∀ checkpoint, checkpoint = none ∨ checkpoint = some "" → o.position checkpoint = .atTimestamp t := by
  obtain ⟨t, ht⟩ := Option.isSome_iff_exists.1 (h.timestamp_isSome hm)
  refine ⟨t, ht, fun checkpoint hc => ?_⟩
  rw [position_of_no_checkpoint o hc]
  simp only [requested?, hm, ht]
  rfl

end StartOptions

/-! ### Presets and chains -/

theorem Preset.start_config (preset : Preset) (id : Nat) :
    (preset.config id).start = { mode := .afterSequenceNumber, timestamp := none, sequenceNumber := none } := by
  cases preset <;> rfl

/-- Along every chain from a preset the start options are settled. -/
theorem Preset.settled_followAll (preset : Preset) (id : Nat) (chain : List Link) :
    ((preset.config id).followAll chain).start.Settled := by
  cases h : lastChoice? chain with
  | none =>
    rw [Config.start_followAll_of_none _ h, preset.start_config]
    exact ⟨by simp, by simp⟩
  | some choice =>
    obtain ⟨o, ho⟩ := (preset.config id).exists_start_followAll h
    rw [ho]
    exact o.settled_choose choice

/-- Without a checkpoint only the last choice of a chain from a preset counts. -/
theorem Preset.requested?_followAll (preset : Preset) (id : Nat) (chain : List Link) :
    ((preset.config id).followAll chain).start.requested?.getD .trimHorizon =
      ((lastChoice? chain).map StartChoice.position).getD .trimHorizon := by
  cases h : lastChoice? chain with
  | none =>
    rw [Config.start_followAll_of_none _ h, preset.start_config]
    rfl
  | some choice =>
    obtain ⟨o, ho⟩ := (preset.config id).exists_start_followAll h
    rw [ho]
    exact o.requested?_choose choice

/-- No stale start option leaks: for every chain from a preset (a) the start options are settled, (b) a checkpoint that
is not empty decides the start position, (c) without one the last choice of the chain decides it alone.  So no position
starts at a sequence number, and the mode that starts at an instant never falls back. -/
theorem startPosition_followAll (preset : Preset) (id : Nat) (chain : List Link) :
    let c := (preset.config id).followAll chain
    (c.start.mode ≠ .atSequenceNumber ∧ (c.start.mode = .atTimestamp → c.start.timestamp.isSome)) ∧
      (∀ s, s ≠ "" → c.startPosition (some s) = .afterSequenceNumber s) ∧
      (∀ checkpoint, checkpoint = none ∨ checkpoint = some "" →
        c.startPosition checkpoint = ((lastChoice? chain).map StartChoice.position).getD .trimHorizon) ∧
      (∀ checkpoint number, c.startPosition checkpoint ≠ .atSequenceNumber number) ∧
      (c.start.mode = .atTimestamp → ∃ t, c.start.timestamp = some t ∧
        ∀ checkpoint, checkpoint = none ∨ checkpoint = some "" → c.startPosition checkpoint = .atTimestamp t) := by
  intro c
  have hset : c.start.Settled := preset.settled_followAll id chain
  refine ⟨⟨hset.mode_ne, hset.timestamp_isSome⟩, ?_, ?_, ?_, ?_⟩
  · exact fun s hs => c.start.position_of_checkpoint hs
  · intro checkpoint hc
    show c.start.position checkpoint = _
    rw [StartOptions.position_of_no_checkpoint _ hc]
    exact preset.requested?_followAll id chain
  · exact hset.position_ne
  · exact hset.position_atTimestamp

/-- An instant, then a sequence number, then the instant mode again with another instant: the chain ends at the latter. -/
theorem startPosition_stale_companions :
    let later : Instant := { secs := 1716185700, nanos := 0 }
    let chain : List Link :=
      [.change (.set (.start (.atTimestamp Instant.epoch))), .change (.set (.start (.afterSequenceNumber "100"))), .copy,
        .change (.set (.start (.atTimestamp later))), .change (.set (.bufferSize 7))]
    let c := (Preset.recording.config 3).followAll chain
    c.start.sequenceNumber = some "100" ∧ c.startPosition (some "9") = .afterSequenceNumber "9" ∧
      c.startPosition (some "") = .atTimestamp later ∧
      ∃ t, c.start.timestamp = some t ∧ c.startPosition none = .atTimestamp t := by
  intro later chain c
  have h := startPosition_followAll .recording 3 chain
  obtain ⟨t, ht, hp⟩ := h.2.2.2.2 rfl
  exact ⟨rfl, h.2.1 "9" (by decide), h.2.2.1 (some "") (Or.inr rfl), t, ht, hp none (Or.inl rfl)⟩

end StreamConsumer
