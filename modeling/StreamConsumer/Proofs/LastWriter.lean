import StreamConsumer.Proofs.Chain
import StreamConsumer.Proofs.Run

/-!
# The last writer wins

Every option of a derived configuration holds what the last link of its chain to write the option put there, nothing that
was set is ever cleared, and no step of a run alters a configuration that other names stand for (`last_writer_wins`).  A
chain is found in a run by its names (`Session.Derives`): other steps may stand between its links.
-/

namespace StreamConsumer

/-! ### Nothing is cleared -/

namespace StartOptions

theorem timestamp_isSome_choose {o : StartOptions} (choice : StartChoice) (h : o.timestamp.isSome) :
    (o.choose choice).timestamp.isSome := by
  cases choice with
  | atTimestamp instant => rfl
  | _ => exact h

theorem sequenceNumber_isSome_choose {o : StartOptions} (choice : StartChoice) (h : o.sequenceNumber.isSome) :
    (o.choose choice).sequenceNumber.isSome := by
  cases choice with
  | atSequenceNumber number => rfl
  | afterSequenceNumber number => rfl
  | _ => exact h

end StartOptions

/-! ### Chains in a run -/

namespace Session

/-- The source and the target of a step that derives a configuration, and the link between them. -/
def link? (s : Session) : Step → Option (String × String × Link)
  | .copy source target => some (source, target, .copy)
  | .set source target setting => some (source, target, .change (.set setting))
  | .attachStats source target name => (sink? s.stats name).map fun sink => (source, target, .change (.stats sink))
  | .attachLogger source target name => (sink? s.loggers name).map fun sink => (source, target, .change (.logger sink))
  | _ => none

/-- The run derives what it calls `last` from what it calls `name` along the chain. -/
inductive Derives : Session → String → List Step → List Link → String → Prop
  | done (s : Session) (name : String) : Derives s name [] [] name
  | skip {s : Session} {name last : String} {step : Step} {steps : List Step} {chain : List Link}
      (h : step.target? ≠ some name) (rest : Derives (s.perform step).2 name steps chain last) :
      Derives s name (step :: steps) chain last
  | link {s : Session} {name target last : String} {step : Step} {link : Link} {steps : List Step} {chain : List Link}
      (h : s.link? step = some (name, target, link)) (rest : Derives (s.perform step).2 target steps chain last) :
      Derives s name (step :: steps) (link :: chain) last

theorem find?_configs_derive_of_some {s : Session} {source : String} {c : Config}
    (hc : s.configs.find? source = some c) (target : String) (f : Config → Config) :
    (s.derive source target f).2.configs.find? target = some (f c) := by
  simp [derive, bind, hc]

/-- The target of a step that derives is the source followed along the link. -/
theorem find?_configs_perform_of_link? {s : Session} {step : Step} {source target : String} {link : Link} {c : Config}
    (h : s.link? step = some (source, target, link)) (hc : s.configs.find? source = some c) :
    (s.perform step).2.configs.find? target = some (c.follow link) := by
  cases step with
  | copy source' target' =>
    obtain ⟨rfl, rfl, rfl⟩ : source' = source ∧ target' = target ∧ Link.copy = link := by simpa [link?] using h
    exact find?_configs_derive_of_some hc _ id
  | set source' target' setting =>
    obtain ⟨rfl, rfl, rfl⟩ : source' = source ∧ target' = target ∧ Link.change (.set setting) = link := by
      simpa [link?] using h
    exact find?_configs_derive_of_some hc _ fun c => c.set setting
  | attachStats source' target' name =>
    obtain ⟨sink, hsink, rfl, rfl, rfl⟩ : ∃ sink, sink? s.stats name = some sink ∧ source' = source ∧
        target' = target ∧ Link.change (.stats sink) = link := by simpa [link?] using h
    simp only [perform, attachStats, hsink]
    exact find?_configs_derive_of_some hc _ fun c => c.apply (.stats sink)
  | attachLogger source' target' name =>
    obtain ⟨sink, hsink, rfl, rfl, rfl⟩ : ∃ sink, sink? s.loggers name = some sink ∧ source' = source ∧
        target' = target ∧ Link.change (.logger sink) = link := by simpa [link?] using h
    simp only [perform, attachLogger, hsink]
    exact find?_configs_derive_of_some hc _ fun c => c.apply (.logger sink)
  | _ => cases h

/-- What a run derives is what the chain makes of the base. -/
theorem Derives.find?_configs {s : Session} {name last : String} {steps : List Step} {chain : List Link}
    (h : s.Derives name steps chain last) {base : Config} (hb : s.configs.find? name = some base) :
    (s.after steps).configs.find? last = some (base.followAll chain) := by
  induction h generalizing base with
  | done s name => exact hb
  | @skip s name last step steps chain ht _ ih =>
    rw [after_cons]
    exact ih (((s.frame_perform step).configs name ht).trans hb)
  | @link s name target last step link steps chain hl _ ih =>
    rw [after_cons, Config.followAll_cons]
    exact ih (find?_configs_perform_of_link? hl hb)

end Session

/-- Along every chain (a) each option holds the value of its last writer, or that of the base if none of the links writes
it, and (b) an instant and a sequence number, once there, stay.  (c) Wherever a run makes the chain in two parts, the
configuration between them is still what the first part made of the base after the second one, unless its name is given
away, and the last configuration is what the whole chain makes of the base. -/
theorem last_writer_wins (base : Config) (first second : List Link) :
    (∀ f, (base.followAll (first ++ second)).get f = (lastWritten? (first ++ second) f).getD (base.get f)) ∧
      ((base.followAll first).start.timestamp.isSome →
        (base.followAll (first ++ second)).start.timestamp.isSome) ∧
      ((base.followAll first).start.sequenceNumber.isSome →
        (base.followAll (first ++ second)).start.sequenceNumber.isSome) ∧
      ∀ (s : Session) (name middle last : String) (steps steps' : List Step), s.configs.find? name = some base →
        s.Derives name steps first middle → (s.after steps).Derives middle steps' second last →
        (s.after (steps ++ steps')).configs.find? last = some (base.followAll (first ++ second)) ∧
          ((∀ step ∈ steps', step.target? ≠ some middle) →
            (s.after (steps ++ steps')).configs.find? middle = some (base.followAll first)) := by
  refine ⟨base.get_followAll (first ++ second), fun h => ?_, fun h => ?_, ?_⟩
  · rw [Config.followAll_append]
    exact Config.start_followAll_of_choose (P := fun o => o.timestamp.isSome)
      (fun _ => StartOptions.timestamp_isSome_choose) h second
  · rw [Config.followAll_append]
    exact Config.start_followAll_of_choose (P := fun o => o.sequenceNumber.isSome)
      (fun _ => StartOptions.sequenceNumber_isSome_choose) h second
  · intro s name middle last steps steps' hb h h'
    have hm := h.find?_configs hb
    rw [Session.after_append, Config.followAll_append]
    exact ⟨h'.find?_configs hm, fun ht => (Session.find?_configs_after _ ht).trans hm⟩

/-- An instant that is set before the mode changes stays, and so does the configuration that was made on the way. -/
theorem last_writer_wins_over_calls :
    let base := Config.recording 0
    let first : List Link := [.change (.set (.start (.atTimestamp Instant.epoch)))]
    let second : List Link := [.copy, .change (.set (.start .latest)), .change (.stats none)]
    let s := Session.empty.after [.createRecording "a" "c"]
    let steps : List Step := [.set "c" "d" (.start (.atTimestamp Instant.epoch)), .report "a" .checkpoint]
    let steps' : List Step := [.copy "d" "e", .set "e" "f" (.start .latest), .validate "d", .attachStats "f" "f" none]
    let result := base.followAll (first ++ second)
    result.start.mode = .latest ∧ result.stats = none ∧ result.logger = base.logger ∧ result.start.timestamp.isSome ∧
      (s.after (steps ++ steps')).configs.find? "f" = some result ∧
      (s.after (steps ++ steps')).configs.find? "d" = some (base.followAll first) := by
  intro base first second s steps steps' result
  obtain ⟨hget, htime, -, hrun⟩ := last_writer_wins base first second
  have h1 : s.Derives "c" steps first "d" := .link rfl (.skip (by simp [Step.target?]) (.done _ _))
  have h2 : (s.after steps).Derives "d" steps' second "f" :=
    .link rfl (.link rfl (.skip (by simp [Step.target?]) (.link rfl (.done _ _))))
  obtain ⟨hlast, hmiddle⟩ := hrun s "c" "d" "f" steps steps' rfl h1 h2
  exact ⟨hget .startMode, hget .stats, hget .logger, htime rfl, hlast, hmiddle (by simp [steps', Step.target?])⟩

end StreamConsumer
