import Mathlib.Tactic.SplitIfs
import QueryFunctions.Text.CodeSet

/-! Quick lookups. The search tree over steps in increasing order gives at every point the value
of the last step that is not beyond it, which is what going through the steps one by one gives.
So the lookup form of a set of code points has the members of the set. -/

namespace QueryFunctions

namespace StepMap

variable {α : Type} {n point : Nat} {first value : α} {left right : List (Nat × α)}

/-- The value at a point, given the one before the first step. -/
def valueAt (n : Nat) : α → List (Nat × α) → α
  | first, [] => first
  | first, (point, value) :: steps => if n < point then first else valueAt n value steps

theorem valueAt_append_of_lt (h : n < point) :
    valueAt n first (left ++ (point, value) :: right) = valueAt n first left := by
  induction left generalizing first with
  | nil => exact if_pos h
  | cons step left ih => simp only [List.cons_append, valueAt, ih]

theorem valueAt_append_of_le (hleft : ∀ step ∈ left, step.1 ≤ n) (h : point ≤ n) :
    valueAt n first (left ++ (point, value) :: right) = valueAt n value right := by
  induction left generalizing first with
  | nil => exact if_neg (Nat.not_lt.mpr h)
  | cons step left ih =>
    obtain ⟨hstep, hleft⟩ := List.forall_mem_cons.mp hleft
    rw [List.cons_append, valueAt, if_neg (Nat.not_lt.mpr hstep), ih hleft]

theorem find_build {fuel : Nat} {steps : List (Nat × α)} (hfuel : steps.length ≤ fuel)
    (hsteps : steps.Pairwise (·.1 < ·.1)) (n : Nat) :
    (build fuel first steps).find n = valueAt n first steps := by
  induction fuel generalizing first steps with
  | zero =>
    obtain rfl := List.eq_nil_of_length_eq_zero (Nat.le_zero.mp hfuel)
    rfl
  | succ fuel ih =>
    have hcut := List.take_append_drop (steps.length / 2) steps
    rw [build, List.splitAt_eq]
    cases hright : steps.drop (steps.length / 2) with
    | nil =>
      have hlength := List.drop_eq_nil_iff.mp hright
      obtain rfl := List.eq_nil_of_length_eq_zero (l := steps) (by omega)
      rfl
    | cons step right =>
      obtain ⟨point, value⟩ := step
      generalize hleft : steps.take (steps.length / 2) = left at hcut ⊢
      rw [hright] at hcut
      subst hcut
      obtain ⟨hbelow, habove, hreach⟩ := List.pairwise_append.mp hsteps
      rw [List.length_append, List.length_cons] at hfuel
      have hlengths := congrArg List.length hleft
      rw [List.length_take, List.length_append, List.length_cons] at hlengths
      change (if n < point then (build fuel first left).find n
        else (build fuel value right).find n) = _
      split_ifs with hn
      · rw [ih (by omega) hbelow, valueAt_append_of_lt hn]
      · have hreached : ∀ step ∈ left, step.1 ≤ n := fun step hstep =>
          Nat.le_trans (Nat.le_of_lt (hreach step hstep _ List.mem_cons_self)) (Nat.not_lt.mp hn)
        rw [ih (by omega) (List.pairwise_cons.mp habove).2,
          valueAt_append_of_le hreached (Nat.not_lt.mp hn)]

end StepMap

namespace CodeSet

theorem valueAt_steps (n : Nat) (inside : Bool) (flips : List Nat) :
    StepMap.valueAt n inside (steps inside flips) = insideAt n inside flips := by
  induction flips generalizing inside with
  | nil => rfl
  | cons flip flips ih => rw [steps, StepMap.valueAt, ih, insideAt]

theorem map_steps (inside : Bool) (flips : List Nat) :
    (steps inside flips).map (·.1) = flips := by
  induction flips generalizing inside with
  | nil => rfl
  | cons flip flips ih => rw [steps, List.map_cons, ih]

theorem find_index {s : CodeSet} (h : s.flips.Pairwise (· < ·)) (n : Nat) :
    s.index.find n = s.contains n := by
  have hsteps : (steps false s.flips).Pairwise (·.1 < ·.1) := by
    rw [← List.pairwise_map, map_steps]
    exact h
  rw [index, StepMap.ofSteps, StepMap.find_build (Nat.le_refl _) hsteps, valueAt_steps]
  rfl

end CodeSet

end QueryFunctions
