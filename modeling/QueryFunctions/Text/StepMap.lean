/-! Step functions on the natural numbers: functions that change their value at
finitely many points. They are kept as balanced search trees, so that a lookup in
a table of some thousand steps takes about a dozen comparisons. -/

namespace QueryFunctions

/-- A function on the natural numbers that is constant between finitely many steps. -/
inductive StepMap (α : Type) where
  | constant (value : α)
  | split (pivot : Nat) (below above : StepMap α)

namespace StepMap

variable {α : Type}

def find : StepMap α → Nat → α
  | constant value, _ => value
  | split pivot below above, n => if n < pivot then below.find n else above.find n

/-- The tree over `steps`, each the point where a value starts to hold. The fuel bounds
the depth. -/
def build : Nat → α → List (Nat × α) → StepMap α
  | 0, first, _ => constant first
  | fuel + 1, first, steps =>
    match steps.splitAt (steps.length / 2) with
    | (_, []) => constant first
    | (left, (pivot, value) :: right) =>
      split pivot (build fuel first left) (build fuel value right)

/-- The step function with the value `first` before the first step. The steps come in
increasing order of their points. -/
def ofSteps (first : α) (steps : List (Nat × α)) : StepMap α :=
  build steps.length first steps

end StepMap

end QueryFunctions
