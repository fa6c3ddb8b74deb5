import Mathlib.Logic.Relation
import StreamConsumer.Proofs.Run

/-!
# Calls in another order

A call of a sink can trade places with a neighbour that gives its name to no sink.  Runs that differ by such trades leave
the same names and make the same calls of every sink, in some order (`Reordered.agree`).  In particular a block of calls
can be put in any order (`Reordered.of_perm`).
-/

namespace StreamConsumer

/-- The step calls a sink by a name that the other step does not give away. -/
def Step.Passes : Step → Step → Prop
  | report name _, other => other.statsName? ≠ some name
  | log name _, other => other.loggerName? ≠ some name
  | _, _ => False

/-- A call and its neighbour trade places. -/
inductive Trade : List Step → List Step → Prop
  | intro (front back : List Step) {call other : Step} (h : call.Passes other) :
      Trade (front ++ call :: other :: back) (front ++ other :: call :: back)

/-- One run comes from the other by trades. -/
def Reordered : List Step → List Step → Prop := Relation.EqvGen Trade

theorem Step.Passes.isSinkCall {call other : Step} (h : call.Passes other) : call.isSinkCall = true := by
  cases call with
  | report name call => rfl
  | log name message => rfl
  | _ => cases h

theorem Step.names?_of_isSinkCall {step : Step} (h : step.isSinkCall = true) :
    step.statsName? = none ∧ step.loggerName? = none := by
  cases step with
  | report name call => exact ⟨rfl, rfl⟩
  | log name message => exact ⟨rfl, rfl⟩
  | _ => cases h

theorem Step.passes_of_isSinkCall {call other : Step} (h : call.isSinkCall = true) (ho : other.isSinkCall = true) :
    call.Passes other := by
  obtain ⟨hs, hl⟩ := names?_of_isSinkCall ho
  cases call with
  | report name call => simp [Passes, hs]
  | log name message => simp [Passes, hl]
  | _ => cases h

/-! ### Blocks of calls -/

namespace Reordered

theorem trade {steps steps' : List Step} (h : Trade steps steps') : Reordered steps steps' := .rel _ _ h

theorem refl (steps : List Step) : Reordered steps steps := Relation.EqvGen.refl _

theorem trans {first second third : List Step} (h : Reordered first second) (h' : Reordered second third) :
    Reordered first third := Relation.EqvGen.trans _ _ _ h h'

/-- Calls that follow each other can be put in any order. -/
theorem of_perm (front back : List Step) {calls calls' : List Step} (h : calls.Perm calls')
    (hc : ∀ step ∈ calls, step.isSinkCall = true) : Reordered (front ++ calls ++ back) (front ++ calls' ++ back) := by
  induction h generalizing front with
  | nil => exact refl _
  | cons step _ ih =>
    -- the first call joins the steps in front
    have h1 := ih (front ++ [step]) fun t ht => hc t (List.mem_cons_of_mem _ ht)
    simpa only [List.append_assoc, List.cons_append, List.nil_append] using h1
  | swap first second rest =>
    have hp : second.Passes first := Step.passes_of_isSinkCall (hc _ (by simp)) (hc _ (by simp))
    simpa only [List.append_assoc, List.cons_append] using trade (.intro front (rest ++ back) hp)
  | trans h1 _ ih1 ih2 => exact (ih1 front hc).trans (ih2 front fun t ht => hc t (h1.mem_iff.2 ht))

end Reordered

/-! ### One trade -/

namespace Session

/-- The runs leave the same names, and every sink gets the same calls from them up to order. -/
structure Agree (s : Session) (steps steps' : List Step) : Prop where
  names : (s.after steps).names = (s.after steps').names
  reports : ∀ sink, (s.reportsTo sink steps).Perm (s.reportsTo sink steps')
  messages : ∀ sink, (s.messagesTo sink steps).Perm (s.messagesTo sink steps')

theorem names_after_congr {s s' : Session} (h : s.names = s'.names) (steps : List Step) :
    (s.after steps).names = (s'.after steps).names := by
  induction steps generalizing s s' with
  | nil => exact h
  | cons step steps ih =>
    rw [after_cons, after_cons]
    exact ih (by rw [names_perform, h, ← names_perform])

/-- What the names stand for after a call and its neighbour does not depend on which of them comes first. -/
private theorem names_trade (s : Session) {call other : Step} (h : call.Passes other) :
    ((s.perform call).2.perform other).2.names = ((s.perform other).2.perform call).2.names := by
  rw [names_perform, names_perform_of_isSinkCall s h.isSinkCall, ← names_perform,
    names_perform_of_isSinkCall _ h.isSinkCall]

section Gather

variable {α : Type} {pick : Session → Step → Option α}

/-- A run gives the same if the names are the same and only they matter. -/
private theorem gather_congr (hn : ∀ s s' : Session, s.names = s'.names → pick s = pick s') {s s' : Session}
    (h : s.names = s'.names) (steps : List Step) :
    gather (fun s step => (s.perform step).2) pick s steps =
      gather (fun s step => (s.perform step).2) pick s' steps := by
  refine gather_eq (R := fun s s' _ => s.names = s'.names) (fun s s' step _ h => ⟨?_, ?_⟩) h
  · rw [hn s s' h]
  · rw [names_perform, h, ← names_perform]

/-- What a run gives is only put in another order by a trade, if only names matter and a call gives the same after the
steps that it passes. -/
private theorem gather_perm (hn : ∀ s s' : Session, s.names = s'.names → pick s = pick s')
    (hp : ∀ (s : Session) (call other : Step), call.Passes other → pick (s.perform other).2 call = pick s call)
    {steps steps' : List Step} (h : Trade steps steps') (s : Session) :
    (gather (fun s step => (s.perform step).2) pick s steps).Perm
      (gather (fun s step => (s.perform step).2) pick s steps') := by
  cases h with
  | @intro front back call other h =>
    rw [gather_append, gather_append, ← after_eq_foldl]
    simp only [gather]
    -- the call is asked for after its neighbour, the neighbour after the call
    rw [hp _ _ _ h, hn _ _ (names_perform_of_isSinkCall (s.after front) h.isSinkCall),
      gather_congr hn ((s.after front).names_trade h)]
    exact (List.perm_append_comm_assoc _ _ _).append_left _

end Gather

private theorem report?_of_passes (s : Session) {call other : Step} (h : call.Passes other) (sink : StatsSink) :
    (s.perform other).2.report? sink call = s.report? sink call := by
  cases call with
  | report name call => simp only [report?, (s.frame_perform other).stats name h]
  | _ => rfl

private theorem message?_of_passes (s : Session) {call other : Step} (h : call.Passes other) (sink : LogSink) :
    (s.perform other).2.message? sink call = s.message? sink call := by
  cases call with
  | log name message => simp only [message?, (s.frame_perform other).loggers name h]
  | _ => rfl

theorem agree_of_trade (s : Session) {steps steps' : List Step} (h : Trade steps steps') : s.Agree steps steps' := by
  refine ⟨?_, fun sink => ?_, fun sink => ?_⟩
  · obtain ⟨front, back, h⟩ := h
    rw [after_append, after_append]
    exact names_after_congr ((s.after front).names_trade h) back
  · exact gather_perm (fun _ _ h => congrArg (fun t => t.report? sink) h)
      (fun s _ _ h => s.report?_of_passes h sink) h s
  · exact gather_perm (fun _ _ h => congrArg (fun t => t.message? sink) h)
      (fun s _ _ h => s.message?_of_passes h sink) h s

end Session

/-! ### Any number of trades -/

/-- Runs that come from each other by trades agree. -/
theorem Reordered.agree {steps steps' : List Step} (h : Reordered steps steps') (s : Session) :
    s.Agree steps steps' := by
  induction h with
  | rel _ _ h => exact s.agree_of_trade h
  | refl _ => exact ⟨rfl, fun _ => List.Perm.refl _, fun _ => List.Perm.refl _⟩
  | symm _ _ _ ih => exact ⟨ih.names.symm, fun sink => (ih.reports sink).symm, fun sink => (ih.messages sink).symm⟩
  | trans _ _ _ _ _ ih1 ih2 =>
    exact ⟨ih1.names.trans ih2.names, fun sink => (ih1.reports sink).trans (ih2.reports sink),
      fun sink => (ih1.messages sink).trans (ih2.messages sink)⟩

end StreamConsumer
