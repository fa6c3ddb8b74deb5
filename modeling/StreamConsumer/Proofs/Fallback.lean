import StreamConsumer.Proofs.Start

/-!
# Falling back to the oldest record

A mode says what companion values it requires, and the start options ask for a position.  The two descriptions fit
together: options ask for a position exactly if the companions of their mode are there (`StartOptions.Complete`), and
the position has their mode and carries these companions and no others (`StartOptions.requested?_eq_some_iff`).  So
without a checkpoint the start falls back exactly if a required companion is missing (`position_falls_back_iff`).
-/

namespace StreamConsumer

namespace StartPosition

/-- A position carries a sequence number exactly if its mode requires one. -/
theorem requiresSequenceNumber_mode (p : StartPosition) :
    p.mode.requiresSequenceNumber = true ↔ ∃ number, p.sequenceNumber? = some number := by
  cases p <;> simp [mode, StartMode.requiresSequenceNumber, sequenceNumber?]

theorem requiresTimestamp_mode (p : StartPosition) :
    p.mode.requiresTimestamp = true ↔ ∃ instant, p.timestamp? = some instant := by
  cases p <;> simp [mode, StartMode.requiresTimestamp, timestamp?]

end StartPosition

namespace StartOptions

/-- The companions that the mode requires are there; an empty sequence number is not. -/
structure Complete (o : StartOptions) : Prop where
  sequenceNumber : o.mode.requiresSequenceNumber = true → ∃ number, o.sequenceNumber = some number ∧ number ≠ ""
  timestamp : o.mode.requiresTimestamp = true → ∃ instant, o.timestamp = some instant

variable (o : StartOptions)

/-- Options ask for the position of their mode that carries their own companions. -/
theorem requested?_eq_some_iff (p : StartPosition) :
    o.requested? = some p ↔
      p.mode = o.mode ∧ (∀ number, p.sequenceNumber? = some number → o.sequenceNumber = some number ∧ number ≠ "") ∧
        ∀ instant, p.timestamp? = some instant → o.timestamp = some instant := by
  simp only [← filled?_eq_some_iff]
  unfold requested?
  cases hm : o.mode <;> cases p <;>
    simp [StartPosition.mode, StartPosition.sequenceNumber?, StartPosition.timestamp?]

theorem complete_of_requested? {p : StartPosition} (h : o.requested? = some p) : o.Complete := by
  obtain ⟨hmode, hnumber, hinstant⟩ := (o.requested?_eq_some_iff p).1 h
  constructor
  · intro hrequired
    rw [← hmode, p.requiresSequenceNumber_mode] at hrequired
    obtain ⟨number, hp⟩ := hrequired
    exact ⟨number, hnumber number hp⟩
  · intro hrequired
    rw [← hmode, p.requiresTimestamp_mode] at hrequired
    obtain ⟨instant, hp⟩ := hrequired
    exact ⟨instant, hinstant instant hp⟩

theorem Complete.exists_requested? {o : StartOptions} (h : o.Complete) : ∃ p, o.requested? = some p := by
  unfold requested?
  cases hm : o.mode with
  | trimHorizon => exact ⟨.trimHorizon, rfl⟩
  | latest => exact ⟨.latest, rfl⟩
  | atSequenceNumber =>
    obtain ⟨number, hnumber⟩ := h.sequenceNumber (by rw [hm]; rfl)
    exact ⟨.atSequenceNumber number, by rw [filled?_eq_some_iff.2 hnumber]; rfl⟩
  | afterSequenceNumber =>
    obtain ⟨number, hnumber⟩ := h.sequenceNumber (by rw [hm]; rfl)
    exact ⟨.afterSequenceNumber number, by rw [filled?_eq_some_iff.2 hnumber]; rfl⟩
  | atTimestamp =>
    obtain ⟨instant, hinstant⟩ := h.timestamp (by rw [hm]; rfl)
    exact ⟨.atTimestamp instant, by rw [hinstant]; rfl⟩

/-! ### Without a checkpoint -/

section NoCheckpoint

variable {o} {checkpoint : Option String} (hc : checkpoint = none ∨ checkpoint = some "")
include hc

/-- Complete options get the position that they ask for. -/
theorem Complete.requested?_eq_position (h : o.Complete) : o.requested? = some (o.position checkpoint) := by
  obtain ⟨p, hp⟩ := h.exists_requested?
  rw [position_of_no_checkpoint o hc, hp]
  rfl

theorem position_of_not_complete (h : ¬ o.Complete) : o.position checkpoint = .trimHorizon := by
  have hnone : o.requested? = none := by
    rw [Option.eq_none_iff_forall_ne_some]
    exact fun p hp => h (o.complete_of_requested? hp)
  rw [position_of_no_checkpoint o hc, hnone]
  rfl

theorem mode_position_iff : (o.position checkpoint).mode = o.mode ↔ o.Complete := by
  constructor
  · intro hmode
    by_cases h : o.Complete
    · exact h
    · -- the mode of the oldest record requires nothing
      rw [position_of_not_complete hc h] at hmode
      constructor
      · intro hrequired
        rw [← hmode] at hrequired
        cases hrequired
      · intro hrequired
        rw [← hmode] at hrequired
        cases hrequired
  · intro h
    exact ((o.requested?_eq_some_iff _).1 (h.requested?_eq_position hc)).1

end NoCheckpoint

/-- Only the mode and the companions that it requires have an effect on the position. -/
theorem position_congr {o o' : StartOptions} (hmode : o'.mode = o.mode)
    (hnumber : o.mode.requiresSequenceNumber = true → o'.sequenceNumber = o.sequenceNumber)
    (hinstant : o.mode.requiresTimestamp = true → o'.timestamp = o.timestamp) (checkpoint : Option String) :
    o'.position checkpoint = o.position checkpoint := by
  have hrequested : o'.requested? = o.requested? := by
    unfold requested?
    rw [hmode]
    cases hm : o.mode with
    | trimHorizon => rfl
    | latest => rfl
    | atSequenceNumber => rw [hnumber (by rw [hm]; rfl)]
    | afterSequenceNumber => rw [hnumber (by rw [hm]; rfl)]
    | atTimestamp => rw [hinstant (by rw [hm]; rfl)]
  unfold position
  rw [hrequested]

end StartOptions

open StartOptions in
/-- A checkpoint that is not empty decides the position.  Without one the position has the mode of the options exactly
if the companions that the mode requires are there, and starts at the oldest record otherwise; a position that does not
fall back carries exactly the given companions.  A companion that the mode does not require has no effect at all. -/
theorem position_falls_back_iff (o : StartOptions) :
    (∀ number, number ≠ "" → o.position (some number) = .afterSequenceNumber number) ∧
      (∀ checkpoint, checkpoint = none ∨ checkpoint = some "" →
        ((o.position checkpoint).mode = o.mode ↔
          (o.mode.requiresSequenceNumber = true → ∃ number, o.sequenceNumber = some number ∧ number ≠ "") ∧
            (o.mode.requiresTimestamp = true → ∃ instant, o.timestamp = some instant)) ∧
        ((o.position checkpoint).mode ≠ o.mode → o.position checkpoint = .trimHorizon) ∧
        ((o.position checkpoint).mode = o.mode →
          (∀ number, (o.position checkpoint).sequenceNumber? = some number → o.sequenceNumber = some number) ∧
            ∀ instant, (o.position checkpoint).timestamp? = some instant → o.timestamp = some instant)) ∧
      ∀ o' : StartOptions, o'.mode = o.mode →
        (o.mode.requiresSequenceNumber = true → o'.sequenceNumber = o.sequenceNumber) →
        (o.mode.requiresTimestamp = true → o'.timestamp = o.timestamp) →
          ∀ checkpoint, o'.position checkpoint = o.position checkpoint := by
  refine ⟨fun number hne => o.position_of_checkpoint hne, fun checkpoint hc => ⟨?_, fun hmode => ?_, fun hmode => ?_⟩,
    fun o' => position_congr⟩
  · rw [mode_position_iff hc]
    exact ⟨fun h => ⟨h.sequenceNumber, h.timestamp⟩, fun h => ⟨h.1, h.2⟩⟩
  · exact position_of_not_complete hc fun h => hmode ((mode_position_iff hc).2 h)
  · have hcomplete : o.Complete := (mode_position_iff hc).1 hmode
    obtain ⟨-, hnumber, hinstant⟩ := (o.requested?_eq_some_iff _).1 (hcomplete.requested?_eq_position hc)
    exact ⟨fun number hp => (hnumber number hp).1, hinstant⟩

/-- An instant mode with a sequence number only, before and after it gets its instant. -/
theorem position_falls_back_iff_for_instant :
    let bare : StartOptions := { mode := .atTimestamp, timestamp := none, sequenceNumber := some "1" }
    let timed : StartOptions := { bare with timestamp := some Instant.epoch }
    (bare.position (some "")).mode ≠ bare.mode ∧ bare.position (some "") = .trimHorizon ∧
      timed.position none = { timed with sequenceNumber := none }.position none ∧
      ∀ instant, (timed.position none).timestamp? = some instant → timed.timestamp = some instant := by
  intro bare timed
  have hbare := (position_falls_back_iff bare).2.1 (some "") (Or.inr rfl)
  have htimed := (position_falls_back_iff timed).2.1 none (Or.inl rfl)
  have hne : (bare.position (some "")).mode ≠ bare.mode := by decide
  refine ⟨hne, hbare.2.1 hne, ?_, (htimed.2.2 rfl).2⟩
  exact (position_falls_back_iff { timed with sequenceNumber := none }).2.2 timed rfl (by decide) (fun _ => rfl) none

end StreamConsumer
