import StreamConsumer.Proofs.Numbering

/-!
# Configurations and calls of sinks

Configurations and calls of sinks do not interfere (`configs_and_calls_do_not_interfere`).  One half compares two runs:
what the steps other than calls are answered depends on the names and on the next number alone, and calls change
neither. The other half is about one run: only calls touch what sinks remember or send anything out, and a named
configuration changes only when a step makes another one of that name.
-/

namespace StreamConsumer

def Step.isDescription : Step → Bool
  | describe _ _ | describeStats _ _ | describeLogger _ _ => true
  | _ => false

/-- What an answer says beside the text of a description. -/
def Answer.plain (step : Step) : Answer → Answer
  | text t => if step.isDescription then text "" else text t
  | answer => answer

/-- One run comes from the other by leaving out calls of sinks. -/
inductive Thinned : List Step → List Step → Prop
  | nil : Thinned [] []
  | keep {steps steps' : List Step} (step : Step) (h : Thinned steps steps') : Thinned (step :: steps) (step :: steps')
  | drop {step : Step} {steps steps' : List Step} (hc : step.isSinkCall = true) (h : Thinned steps steps') :
      Thinned (step :: steps) steps'

namespace Session

/-- The steps of a run that are not calls of sinks, each with its answer but for the texts of descriptions. -/
def plainAnswers (s : Session) (steps : List Step) : List (Step × Answer) :=
  ((steps.zip (s.run steps).1).filter fun entry => !entry.1.isSinkCall).map fun entry =>
    (entry.1, entry.2.plain entry.1)

theorem plainAnswers_cons (s : Session) (step : Step) (steps : List Step) :
    s.plainAnswers (step :: steps) =
      if step.isSinkCall then (s.perform step).2.plainAnswers steps
      else (step, (s.perform step).1.plain step) :: (s.perform step).2.plainAnswers steps := by
  cases hc : step.isSinkCall <;> simp [plainAnswers, run, hc]

/-! ### Two runs -/

/-- What sinks remember is shown only by descriptions: all other answers are those of a session in which nothing was
ever remembered. -/
theorem plain_perform {s : Session} (h : s.Numbered) {step : Step} (hc : step.isSinkCall = false) :
    (s.perform step).1.plain step = (s.names.perform step).1.plain step := by
  have hderive : ∀ source target f, (s.derive source target f).1 = (s.names.derive source target f).1 := by
    intro source target f
    simp only [derive, names]
    cases s.configs.find? source <;> rfl
  cases step with
  | create origin target => rfl
  | createRecording sinks target =>
    exact congrArg (fun form => Answer.recording _ (form.text false)) (h.recordingForm_new [])
  | copy source target => rw [perform, hderive]; rfl
  | set source target setting => rw [perform, hderive]; rfl
  | attachStats source target name =>
    simp only [perform, attachStats, names]
    cases sink? s.stats name with
    | none => rfl
    | some sink => rw [hderive]; rfl
  | attachLogger source target name =>
    simp only [perform, attachLogger, names]
    cases sink? s.loggers name with
    | none => rfl
    | some sink => rw [hderive]; rfl
  | inspect source => rfl
  | validate source => rfl
  | startPosition source checkpoint => rfl
  | compare first second => rfl
  | describe source onLines =>
    simp only [perform, read, names]
    cases s.configs.find? source <;> rfl
  | takeStats source name =>
    simp only [perform, takeStats, names]
    cases s.configs.find? source with
    | none => rfl
    | some c => cases hs : c.stats <;> simp only [hs]
  | takeLogger source name =>
    simp only [perform, takeLogger, names]
    cases s.configs.find? source with
    | none => rfl
    | some c => cases hs : c.logger <;> simp only [hs]
  | makeStats kind name => exact congrArg (fun form => Answer.text (form.text false)) (h.statsForm_new kind)
  | makeLogger kind name => exact congrArg (fun form => Answer.text (form.text false)) (h.logForm_new [] kind)
  | report name call => cases hc
  | log name message => cases hc
  | describeStats name onLines =>
    simp only [perform, describeStats, names]
    cases s.stats.find? name <;> rfl
  | describeLogger name onLines =>
    simp only [perform, describeLogger, names]
    cases s.loggers.find? name <;> rfl

end Session

open Session in
/-- Sessions with the same names answer a run and any thinned one alike. -/
theorem Thinned.plainAnswers_eq {steps steps' : List Step} (h : Thinned steps steps') {s t : Session}
    (hn : s.names = t.names) (hs : s.Numbered) (ht : t.Numbered) : s.plainAnswers steps = t.plainAnswers steps' := by
  induction h generalizing s t with
  | nil => rfl
  | @keep steps steps' step _ ih =>
    have hnext : (s.perform step).2.names = (t.perform step).2.names := by rw [names_perform, hn, ← names_perform]
    rw [plainAnswers_cons, plainAnswers_cons, ih hnext (hs.perform step) (ht.perform step)]
    cases hc : step.isSinkCall with
    | true => rfl
    | false => rw [plain_perform hs hc, plain_perform ht hc, hn]
  | @drop step steps steps' hc _ ih =>
    -- only the first run makes the call, and no name is changed by it
    rw [plainAnswers_cons, if_pos hc]
    exact ih ((s.names_perform_of_isSinkCall hc).trans hn) (hs.perform step) ht

/-! ### One run -/

namespace Session

/-- What is learned from a configuration without its sinks' memory stays until its name is given away. -/
theorem read_after {s : Session} {steps : List Step} {name : String} (h : ∀ step ∈ steps, step.target? ≠ some name)
    (f : Config → Answer) : (s.after steps).read name f = s.read name f := by
  rw [read, s.find?_configs_after h, read]

end Session

open Session in
/-- (a) Leaving out any calls of sinks from a run changes no answer of another step, the texts of descriptions apart.
(b) A step that is no call changes no counter, line or mark of failure of any sink and sends nothing out.  (c) The
state, the verdict and the start positions of a named configuration stay through every run in which no step has the name
as its target; so a configuration that was found valid stays valid. -/
theorem configs_and_calls_do_not_interfere :
    (∀ steps steps', Thinned steps steps' → empty.plainAnswers steps' = empty.plainAnswers steps) ∧
      (∀ (s : Session) (step : Step), step.isSinkCall = false →
        (∀ sink, (s.perform step).2.store.counts? sink = s.store.counts? sink) ∧
          (∀ sink, (s.perform step).2.store.journal? sink = s.store.journal? sink) ∧
          (s.perform step).1.emitted = []) ∧
      ∀ (s : Session) (name : String) (steps : List Step), (∀ step ∈ steps, step.target? ≠ some name) →
        ((s.after steps).perform (.inspect name)).1 = (s.perform (.inspect name)).1 ∧
          ((s.after steps).perform (.validate name)).1 = (s.perform (.validate name)).1 ∧
          ∀ checkpoint, ((s.after steps).perform (.startPosition name checkpoint)).1 =
            (s.perform (.startPosition name checkpoint)).1 := by
  refine ⟨fun steps steps' h => ?_, fun s step hc => ?_, fun s name steps h => ?_⟩
  · exact (h.plainAnswers_eq rfl numbered_empty numbered_empty).symm
  · have hstore : (s.perform step).2.store = s.store := (s.frame_perform step).store hc
    rw [hstore]
    exact ⟨fun _ => rfl, fun _ => rfl, s.emitted_perform hc⟩
  · exact ⟨read_after h _, read_after h _, fun checkpoint => read_after h _⟩

/-- A report and a message that fails are left out of a run, and a valid configuration is used and derived from. -/
theorem configs_and_calls_do_not_interfere_after_failure :
    let making : Step := .createRecording "a" "c"
    let later : List Step := [.attachStats "c" "d" (some "a"), .compare "c" "d", .describe "c" false]
    let steps := making :: .report "a" .checkpoint :: .log "a" (.unformattable "half") :: later
    let s := Session.empty.after [making]
    Thinned steps (making :: later) ∧
      Session.empty.plainAnswers (making :: later) = Session.empty.plainAnswers steps ∧
      ((Session.empty.after steps).perform (.copy "c" "d")).1.emitted = [] ∧
      ((s.after (.log "a" (.unformattable "half") :: later)).perform (.validate "c")).1 = .verdict (.ok ()) := by
  intro making later steps s
  obtain ⟨hthin, hquiet, hstays⟩ := configs_and_calls_do_not_interfere
  have h : Thinned steps (making :: later) := .keep _ (.drop rfl (.drop rfl (.keep _ (.keep _ (.keep _ .nil)))))
  refine ⟨h, hthin _ _ h, (hquiet _ (.copy "c" "d") rfl).2.2, ?_⟩
  exact (hstays s "c" (.log "a" (.unformattable "half") :: later) (by simp [later, Step.target?])).2.1

end StreamConsumer
