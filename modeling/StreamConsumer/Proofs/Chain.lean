import StreamConsumer.Config.Field

/-!
# Chains

A chain derives one configuration from another link by link; a link copies the configuration or changes it.  Each option
of the result holds the value of the last link that writes the option, and the value of the base if there is none
(`Config.get_followAll`).  The start options depend only on the choices of the start in the chain
(`Config.start_followAll`).
-/

namespace StreamConsumer

/-- What makes one configuration from another. -/
inductive Link where
  | copy
  | change (change : Change)

namespace Link

/-- The value that a link writes into an option, if it writes that option. -/
def written? : Link → (f : Field) → Option f.Value
  | copy, _ => none
  | change ch, f => ch.written? f

/-- The new choice of the start, if the link makes one. -/
def choice? : Link → Option StartChoice
  | change (.set (.start choice)) => some choice
  | _ => none

end Link

/-- The value of the last link of a chain that writes an option. -/
def lastWritten? (chain : List Link) (f : Field) : Option f.Value :=
  (chain.filterMap fun link => link.written? f).getLast?

theorem lastWritten?_cons (link : Link) (chain : List Link) (f : Field) :
    lastWritten? (link :: chain) f = (lastWritten? chain f).or (link.written? f) := by
  unfold lastWritten?
  rw [List.filterMap_cons]
  cases link.written? f with
  | none => rw [Option.or_none]
  | some v =>
    rw [List.getLast?_cons]
    cases (chain.filterMap fun link => link.written? f).getLast? <;> rfl

def lastChoice? (chain : List Link) : Option StartChoice := (chain.filterMap Link.choice?).getLast?

/-- The configurations that are made from nothing. -/
inductive Preset where
  | standard
  | testing
  | recording

/-- The preset with sinks of the number `id`. -/
def Preset.config (id : Nat) : Preset → Config
  | standard => Config.standard id
  | testing => Config.testing id
  | recording => Config.recording id

namespace Config

def follow (c : Config) : Link → Config
  | .copy => c
  | .change ch => c.apply ch

/-- What the configuration becomes along a chain, first link to last. -/
def followAll (c : Config) (chain : List Link) : Config := chain.foldl follow c

theorem followAll_cons (c : Config) (link : Link) (chain : List Link) :
    c.followAll (link :: chain) = (c.follow link).followAll chain := rfl

theorem followAll_append (c : Config) (first second : List Link) :
    c.followAll (first ++ second) = (c.followAll first).followAll second := List.foldl_append

/-! ### One option along a chain -/

/-- A link sets the options that it writes and keeps the others. -/
theorem get_follow (c : Config) (link : Link) (f : Field) :
    (c.follow link).get f = (link.written? f).getD (c.get f) := by
  cases link with
  | copy => rfl
  | change ch => exact c.get_apply ch f

/-- The last writer of an option wins. -/
theorem get_followAll (c : Config) (chain : List Link) (f : Field) :
    (c.followAll chain).get f = (lastWritten? chain f).getD (c.get f) := by
  induction chain generalizing c with
  | nil => rfl
  | cons link chain ih =>
    rw [followAll_cons, ih, get_follow, lastWritten?_cons, Option.getD_or]

theorem get_followAll_of_unwritten (c : Config) {chain : List Link} {f : Field}
    (h : ∀ link ∈ chain, link.written? f = none) : (c.followAll chain).get f = c.get f := by
  have hnone : lastWritten? chain f = none := by
    rw [lastWritten?, List.filterMap_eq_nil_iff.2 h]
    rfl
  rw [get_followAll, hnone]
  rfl

/-- Changes are a chain without copies. -/
theorem applyAll_eq_followAll (c : Config) (chain : List Change) :
    c.applyAll chain = c.followAll (chain.map .change) := by
  rw [followAll, List.foldl_map]
  rfl

theorem get_applyAll_of_unwritten (c : Config) {chain : List Change} {f : Field}
    (h : ∀ change ∈ chain, change.written? f = none) : (c.applyAll chain).get f = c.get f := by
  rw [applyAll_eq_followAll]
  refine c.get_followAll_of_unwritten fun link hl => ?_
  obtain ⟨change, hc, rfl⟩ := List.mem_map.1 hl
  exact h change hc

/-! ### The start options along a chain -/

theorem start_follow (c : Config) (link : Link) :
    (c.follow link).start = (link.choice?.map c.start.choose).getD c.start := by
  cases link with
  | copy => rfl
  | change ch =>
    cases ch with
    | set setting => cases setting <;> rfl
    | stats sink => rfl
    | logger sink => rfl

/-- Only the choices of the start have an effect on the start options. -/
theorem start_followAll (c : Config) (chain : List Link) :
    (c.followAll chain).start = (chain.filterMap Link.choice?).foldl StartOptions.choose c.start := by
  induction chain generalizing c with
  | nil => rfl
  | cons link chain ih =>
    rw [followAll_cons, ih, start_follow]
    cases hc : link.choice? with
    | none => rw [List.filterMap_cons_none hc]; rfl
    | some choice => rw [List.filterMap_cons_some hc]; rfl

/-- What every choice preserves is preserved by every chain. -/
theorem start_followAll_of_choose {P : StartOptions → Prop} (hP : ∀ o choice, P o → P (o.choose choice)) {c : Config}
    (h : P c.start) (chain : List Link) : P (c.followAll chain).start := by
  rw [start_followAll]
  -- by induction on the choices, for all options that they start from
  generalize c.start = o at h
  induction chain.filterMap Link.choice? generalizing o with
  | nil => exact h
  | cons choice choices ih => exact ih _ (hP o choice h)

/-- With a choice in the chain, the start options are those of its last choice, made on some options. -/
theorem exists_start_followAll (c : Config) {chain : List Link} {choice : StartChoice}
    (h : lastChoice? chain = some choice) : ∃ o : StartOptions, (c.followAll chain).start = o.choose choice := by
  obtain ⟨front, hf⟩ := List.getLast?_eq_some_iff.1 h
  refine ⟨front.foldl StartOptions.choose c.start, ?_⟩
  rw [start_followAll, hf, List.foldl_append]
  rfl

theorem start_followAll_of_none (c : Config) {chain : List Link} (h : lastChoice? chain = none) :
    (c.followAll chain).start = c.start := by
  rw [start_followAll, List.getLast?_eq_none_iff.1 h]
  rfl

end Config

end StreamConsumer
