import StreamConsumer.Proofs.Fallback

/-!
# Resolving again

A position says as much as some start options (`StartPosition.options`).  Resolving these leads back to the position
exactly if it carries no empty sequence number, and such positions are all that options and checkpoints ever lead to: so
resolving is idempotent (`resolving_settles`).
-/

namespace StreamConsumer

namespace StartPosition

/-- The position carries no empty sequence number. -/
def Usable (p : StartPosition) : Prop := p.sequenceNumber? ≠ some ""

/-- The options of a usable position ask for it. -/
theorem Usable.requested?_options {p : StartPosition} (h : p.Usable) : p.options.requested? = some p := by
  rw [StartOptions.requested?_eq_some_iff]
  refine ⟨rfl, fun number hp => ⟨hp, ?_⟩, fun _ hp => hp⟩
  rintro rfl
  exact h hp

end StartPosition

namespace StartOptions

/-- Options never lead to an empty sequence number, and neither does a checkpoint. -/
theorem usable_position (o : StartOptions) (checkpoint : Option String) : (o.position checkpoint).Usable := by
  unfold position
  cases hc : filled? checkpoint with
  | some number =>
    intro (h : some number = some "")
    exact (filled?_eq_some_iff.1 hc).2 (Option.some.inj h)
  | none =>
    cases hr : o.requested? with
    | none =>
      intro (h : none = some "")
      cases h
    | some p =>
      intro (h : p.sequenceNumber? = some "")
      obtain ⟨-, hnumber, -⟩ := (o.requested?_eq_some_iff p).1 hr
      exact (hnumber "" h).2 rfl

end StartOptions

namespace StartPosition

theorem position_options_eq_iff (p : StartPosition) : p.options.position none = p ↔ p.Usable := by
  constructor
  · intro h
    rw [← h]
    exact p.options.usable_position none
  · intro h
    rw [StartOptions.position_of_no_checkpoint p.options (Or.inl rfl), h.requested?_options]
    rfl

theorem exists_position_eq_iff (p : StartPosition) :
    (∃ o checkpoint, StartOptions.position o checkpoint = p) ↔ p.Usable := by
  constructor
  · rintro ⟨o, checkpoint, rfl⟩
    exact o.usable_position checkpoint
  · intro h
    exact ⟨p.options, none, p.position_options_eq_iff.2 h⟩

end StartPosition

/-- A start after a sequence number that is chosen anew is a start behind a checkpoint with this number. -/
theorem Config.startPosition_afterSequenceNumber (c c' : Config) {number : String} (h : number ≠ "") :
    c.startPosition (some number) =
      (c'.apply (.set (.start (.afterSequenceNumber number)))).startPosition none := by
  have hchosen : (c'.apply (.set (.start (.afterSequenceNumber number)))).startPosition none =
      (StartChoice.afterSequenceNumber number).position := by
    rw [← c'.start.requested?_choose]
    exact StartOptions.position_of_no_checkpoint _ (Or.inl rfl)
  rw [hchosen, StartChoice.position, if_neg h]
  exact c.start.position_of_checkpoint h

/-- Whatever is resolved, resolving the options of the result again gives the result, and the result carries no empty
sequence number.  A position comes back from its own options exactly if it carries no empty sequence number, and exactly
these positions are results at all.  Resuming behind a checkpoint and choosing its number for the start agree. -/
theorem resolving_settles :
    (∀ (o : StartOptions) (checkpoint : Option String),
        (o.position checkpoint).options.position none = o.position checkpoint ∧
          (o.position checkpoint).sequenceNumber? ≠ some "") ∧
      (∀ p : StartPosition, p.options.position none = p ↔ p.sequenceNumber? ≠ some "") ∧
      (∀ p : StartPosition,
        (∃ o checkpoint, StartOptions.position o checkpoint = p) ↔ p.sequenceNumber? ≠ some "") ∧
      ∀ (c c' : Config) (number : String), number ≠ "" →
        c.startPosition (some number) =
          (c'.apply (.set (.start (.afterSequenceNumber number)))).startPosition none := by
  refine ⟨fun o checkpoint => ?_, StartPosition.position_options_eq_iff, StartPosition.exists_position_eq_iff,
    fun c c' number => c.startPosition_afterSequenceNumber c'⟩
  have husable := o.usable_position checkpoint
  exact ⟨(StartPosition.position_options_eq_iff _).2 husable, husable⟩

/-- A configuration that would start at an instant resumes behind a checkpoint like one that chooses its number. -/
theorem resolving_settles_behind_checkpoint :
    let c := (Config.standard 0).apply (.set (.start (.atTimestamp Instant.epoch)))
    let c' := Config.recording 1
    "49" ≠ "" ∧ c.startPosition none = .atTimestamp Instant.epoch ∧
      c.startPosition (some "49") =
        (c'.apply (.set (.start (.afterSequenceNumber "49")))).startPosition none := by
  intro c c'
  have hne : "49" ≠ "" := by decide
  exact ⟨hne, rfl, resolving_settles.2.2.2 c c' "49" hne⟩

end StreamConsumer
