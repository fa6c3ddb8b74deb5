import StreamConsumer.Proofs.Equality

/-!
# Changes that commute

Two changes conflict if they write different values into one option (`Change.Conflicts`).  They commute exactly if they
do not conflict (`Config.same_apply_apply_iff`).  In a chain without conflicts all writers of an option agree
(`Config.get_applyAll_of_agreement`), so neither the order of the changes nor their number counts: what a chain makes
of a configuration depends only on which changes occur in it.
-/

namespace StreamConsumer

namespace Change

/-- The changes write different values into one option. -/
def Conflicts (a b : Change) : Prop :=
  ∃ (f : Field) (v w : f.Value), a.written? f = some v ∧ b.written? f = some w ∧ v ≠ w

theorem not_conflicts_self (a : Change) : ¬ a.Conflicts a := by
  rintro ⟨f, v, w, hv, hw, hne⟩
  rw [hv] at hw
  exact hne (Option.some.inj hw)

theorem Conflicts.symm {a b : Change} (h : a.Conflicts b) : b.Conflicts a := by
  obtain ⟨f, v, w, hv, hw, hne⟩ := h
  exact ⟨f, w, v, hw, hv, hne.symm⟩

/-- Changes that do not conflict write the same value wherever both write. -/
theorem eq_of_not_conflicts {a b : Change} (h : ¬ a.Conflicts b) {f : Field} {v w : f.Value}
    (hv : a.written? f = some v) (hw : b.written? f = some w) : v = w := by
  by_cases hvw : v = w
  · exact hvw
  · exact absurd ⟨f, v, w, hv, hw, hvw⟩ h

/-- In a list without conflicts between its members at two places, no two members conflict at all. -/
theorem not_conflicts_of_pairwise {chain : List Change} (h : chain.Pairwise fun a b => ¬ a.Conflicts b) :
    ∀ a ∈ chain, ∀ b ∈ chain, ¬ a.Conflicts b := by
  induction chain with
  | nil => simp
  | cons first rest ih =>
    obtain ⟨hfirst, hrest⟩ := List.pairwise_cons.1 h
    intro a ha b hb
    rcases List.mem_cons.1 ha with rfl | har
    · rcases List.mem_cons.1 hb with rfl | hbr
      · exact not_conflicts_self _
      · exact hfirst b hbr
    · rcases List.mem_cons.1 hb with rfl | hbr
      · exact fun hab => hfirst a har hab.symm
      · exact ih hrest a har b hbr

end Change

namespace Config

variable (c : Config)

/-- Two changes commute on a configuration exactly if they do not conflict. -/
theorem same_apply_apply_iff (a b : Change) :
    ((c.apply a).apply b).same ((c.apply b).apply a) ↔ ¬ a.Conflicts b := by
  rw [same_iff_get_eq]
  simp only [get_apply]
  constructor
  · rintro h ⟨f, v, w, hv, hw, hne⟩
    have hf := h f
    rw [hv, hw] at hf
    exact hne hf.symm
  · intro h f
    cases hv : a.written? f with
    | none => rfl
    | some v =>
      cases hw : b.written? f with
      | none => rfl
      | some w => exact (Change.eq_of_not_conflicts h hv hw).symm

/-- If all members of a chain that write an option agree on its value, the chain gives it this value. -/
theorem get_applyAll_of_agreement {chain : List Change} {f : Field} {v : f.Value}
    (hv : ∃ change ∈ chain, change.written? f = some v)
    (hagree : ∀ change ∈ chain, ∀ w, change.written? f = some w → w = v) : (c.applyAll chain).get f = v := by
  have hlast : lastWritten? (chain.map .change) f = some v := by
    show ((chain.map Link.change).filterMap _).getLast? = some v
    rw [List.filterMap_map]
    show (chain.filterMap fun change => change.written? f).getLast? = some v
    cases hl : (chain.filterMap fun change => change.written? f).getLast? with
    | none =>
      obtain ⟨change, hc, hw⟩ := hv
      rw [List.getLast?_eq_none_iff, List.filterMap_eq_nil_iff] at hl
      rw [hl change hc] at hw
      cases hw
    | some w =>
      obtain ⟨change, hc, hw⟩ := List.mem_filterMap.1 (List.mem_of_getLast? hl)
      rw [hagree change hc w hw]
  rw [applyAll_eq_followAll, get_followAll, hlast]
  rfl

/-- Chains without conflicts that consist of the same changes make the same of a configuration. -/
theorem same_applyAll_of_mem_iff {chain chain' : List Change}
    (h : ∀ a ∈ chain, ∀ b ∈ chain, ¬ a.Conflicts b) (hmem : ∀ change, change ∈ chain' ↔ change ∈ chain) :
    (c.applyAll chain').same (c.applyAll chain) := by
  rw [same_iff_get_eq]
  intro f
  by_cases hw : ∃ change ∈ chain, ∃ v, change.written? f = some v
  · obtain ⟨change, hc, v, hv⟩ := hw
    have hagree : ∀ other ∈ chain, ∀ w, other.written? f = some w → w = v :=
      fun other ho w hw => Change.eq_of_not_conflicts (h other ho change hc) hw hv
    rw [c.get_applyAll_of_agreement ⟨change, hc, hv⟩ hagree]
    exact c.get_applyAll_of_agreement ⟨change, (hmem change).2 hc, hv⟩
      fun other ho => hagree other ((hmem other).1 ho)
  · have hunwritten : ∀ change ∈ chain, change.written? f = none := by
      intro change hc
      rw [Option.eq_none_iff_forall_ne_some]
      exact fun v hv => hw ⟨change, hc, v, hv⟩
    rw [c.get_applyAll_of_unwritten hunwritten]
    exact c.get_applyAll_of_unwritten fun change hc => hunwritten change ((hmem change).1 hc)

end Config

/-- Two changes, applied in either order, make equal configurations exactly if they do not write different values into
one option.  Chains that consist of the same pairwise compatible changes, in any order and each of them any number of
times, make equal configurations with one verdict.  Choosing the newest records commutes with holding a sequence number
ready; starting after a sequence number conflicts with that. -/
theorem changes_commute_iff :
    (∀ (c : Config) (a b : Change),
        ((c.apply a).apply b).same ((c.apply b).apply a) ↔ ¬ a.Conflicts b) ∧
      (∀ (c : Config) (chain chain' : List Change), (chain.Pairwise fun a b => ¬ a.Conflicts b) →
        (∀ change, change ∈ chain' ↔ change ∈ chain) →
        (c.applyAll chain').same (c.applyAll chain) ∧
          (c.applyAll chain').validate = (c.applyAll chain).validate) ∧
      ∀ number : String,
        (∀ c : Config,
          ((c.apply (.set (.start .latest))).apply (.set (.start (.atSequenceNumber number)))).same
            ((c.apply (.set (.start (.atSequenceNumber number)))).apply (.set (.start .latest)))) ∧
        Change.Conflicts (.set (.start (.afterSequenceNumber number)))
          (.set (.start (.atSequenceNumber number))) := by
  refine ⟨Config.same_apply_apply_iff, fun c chain chain' h hmem => ?_, fun number => ⟨fun c => ?_, ?_⟩⟩
  · have hsame := c.same_applyAll_of_mem_iff (Change.not_conflicts_of_pairwise h) hmem
    exact ⟨hsame, Config.validate_eq_of_same hsame⟩
  · refine (c.same_apply_apply_iff _ _).2 ?_
    rintro ⟨f, v, w, hv, hw, hne⟩
    cases f with
    | startMode => exact hne (Option.some.inj (hv.symm.trans hw))
    | _ => cases hv
  · exact ⟨.startMode, .afterSequenceNumber, .latest, rfl, rfl, StartMode.noConfusion⟩

/-- Three compatible changes, turned round and one of them made twice. -/
theorem changes_commute_iff_turned_round :
    let latest : Change := .set (.start .latest)
    let ready : Change := .set (.start (.atSequenceNumber "7"))
    let chain : List Change := [latest, .stats none, ready]
    let chain' : List Change := [ready, .stats none, latest, ready]
    (chain.Pairwise fun a b => ¬ a.Conflicts b) ∧
      ((Config.recording 0).applyAll chain').same ((Config.recording 0).applyAll chain) ∧
      ((Config.recording 0).applyAll chain').validate = .error .statsMissing := by
  intro latest ready chain chain'
  obtain ⟨hiff, hchains, hstart⟩ := changes_commute_iff
  have hstats : ∀ setting : Setting, ¬ Change.Conflicts (.stats none) (.set setting) := by
    rintro setting ⟨f, v, w, hv, hw, -⟩
    cases f with
    | stats => cases setting with
      | start choice => cases choice <;> cases hw
      | _ => cases hw
    | _ => cases hv
  have hpairwise : chain.Pairwise fun a b => ¬ a.Conflicts b := by
    simp only [chain, List.pairwise_cons, List.mem_cons, List.not_mem_nil, or_false, forall_eq_or_imp, forall_eq,
      false_imp_iff, implies_true, and_true, List.Pairwise.nil]
    exact ⟨⟨fun h => hstats _ h.symm, (hiff (Config.recording 0) latest ready).1 ((hstart "7").1 _)⟩, hstats _⟩
  have hmem : ∀ change, change ∈ chain' ↔ change ∈ chain := by
    intro change
    simp only [chain, chain', List.mem_cons, List.not_mem_nil, or_false]
    grind
  obtain ⟨hsame, hvalidate⟩ := hchains (Config.recording 0) chain chain' hpairwise hmem
  exact ⟨hpairwise, hsame, hvalidate⟩

end StreamConsumer
