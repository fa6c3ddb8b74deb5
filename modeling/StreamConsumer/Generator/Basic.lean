/-!
# Generators

A generator makes values from independent draws of whole numbers, each from a range of its own.  A quantity of a
generator is a measure of its values that grows with one of the draws; the least value whose quantity reaches a bound
makes that draw as small as the bound allows, and every other draw as small as its range allows
(`Quantity.least?`).
-/

namespace StreamConsumer

/-- The whole numbers from `lo` to `hi`. -/
structure Range where
  lo : UInt64
  hi : UInt64
  lo_le_hi : lo ≤ hi := by decide

namespace Range

instance : Membership UInt64 Range where
  mem r n := r.lo ≤ n ∧ n ≤ r.hi

/-- The least number of the range from `need` on. -/
def atLeast? (r : Range) (need : Nat) : Option UInt64 :=
  if need ≤ r.lo.toNat then some r.lo
  else if need ≤ r.hi.toNat then some (UInt64.ofNat need)
  else none

end Range

/-- A maker of values of type `α` from draws named by `ι`. -/
structure Generator (ι α : Type) where
  range : ι → Range
  value : (ι → UInt64) → α

namespace Generator

variable {ι α : Type}

/-- Every draw lies in its range. -/
def Admits (g : Generator ι α) (draws : ι → UInt64) : Prop := ∀ i, draws i ∈ g.range i

/-- The generator can make the value. -/
def Makes (g : Generator ι α) (a : α) : Prop := ∃ draws, g.Admits draws ∧ g.value draws = a

/-- Every draw at the low end of its range, but one. -/
def lowestBut [DecidableEq ι] (g : Generator ι α) (i : ι) (n : UInt64) : ι → UInt64 :=
  fun j => if j = i then n else (g.range j).lo

section

variable [DecidableEq ι] (g : Generator ι α) {i j : ι} {n : UInt64}

theorem lowestBut_self : g.lowestBut i n i = n := if_pos rfl

theorem lowestBut_of_ne (h : j ≠ i) : g.lowestBut i n j = (g.range j).lo := if_neg h

theorem admits_lowestBut (h : n ∈ g.range i) : g.Admits (g.lowestBut i n) := by
  intro j
  by_cases hj : j = i
  · subst hj
    rw [lowestBut_self]
    exact h
  · rw [lowestBut_of_ne g hj]
    exact ⟨UInt64.le_refl _, (g.range j).lo_le_hi⟩

end

end Generator

/-- A measure of the values of a generator. -/
structure Quantity {ι α : Type} (g : Generator ι α) (β : Type) where
  measure : α → β
  /-- The draw that the measure grows with. -/
  draw : ι
  /-- The least number to draw for the measure to reach a bound. -/
  reach : β → Nat

/-- The least value that reaches the bound, if the generator makes any that does. -/
def Quantity.least? {ι α β : Type} [DecidableEq ι] {g : Generator ι α} (q : Quantity g β) (bound : β) : Option α :=
  ((g.range q.draw).atLeast? (q.reach bound)).map fun n => g.value (g.lowestBut q.draw n)

namespace Range

theorem mem_def (r : Range) (n : UInt64) : n ∈ r ↔ r.lo ≤ n ∧ n ≤ r.hi := Iff.rfl

theorem atLeast?_eq_none_iff (r : Range) (need : Nat) : r.atLeast? need = none ↔ r.hi.toNat < need := by
  have h := UInt64.le_iff_toNat_le.1 r.lo_le_hi
  unfold atLeast?
  split
  · simp only [reduceCtorEq, false_iff]
    omega
  · split
    · simp only [reduceCtorEq, false_iff]
      omega
    · simp only [true_iff]
      omega

theorem atLeast?_eq_some {r : Range} {need : Nat} {n : UInt64} (h : r.atLeast? need = some n) :
    n ∈ r ∧ need ≤ n.toNat ∧ ∀ m ∈ r, need ≤ m.toNat → n ≤ m := by
  have hr := r.lo_le_hi
  simp only [mem_def, UInt64.le_iff_toNat_le] at *
  unfold atLeast? at h
  split at h
  · cases h
    exact ⟨⟨Nat.le_refl _, hr⟩, by assumption, fun m hm _ => hm.1⟩
  · split at h
    · cases h
      have hlt := r.hi.toNat_lt
      have hn : (UInt64.ofNat need).toNat = need := by
        rw [UInt64.toNat_ofNat']
        omega
      rw [hn]
      exact ⟨by omega, Nat.le_refl _, fun m _ hm => hm⟩
    · cases h

end Range

end StreamConsumer
