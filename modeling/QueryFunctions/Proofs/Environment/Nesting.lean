import QueryFunctions.Environment

/-! Calls within calls. A call is run with room for some depth of nested calls, and with more
as long as it is cut short. The main statement is that a call which settles on an outcome, given
room enough, comes to that outcome. -/

namespace QueryFunctions

variable {α β : Type}

theorem Run.isFinished_iff {run : Run α} : run.isFinished = true ↔ run.outcome ≠ .unfinished := by
  unfold Run.isFinished
  cases run.outcome <;> simp

/-- Outcomes at more and more depth settle on one: below some depth there is none yet, and from
there on it is always the same. -/
def SettlesOn (outcomes : Nat → Outcome α) (outcome : Outcome α) : Prop :=
  ∃ least, (∀ depth, depth < least → outcomes depth = .unfinished) ∧
    ∀ depth, least ≤ depth → outcomes depth = outcome

namespace SettlesOn

variable {outcomes : Nat → Outcome α} {outcome : Outcome α}

theorem const (outcome : Outcome α) : SettlesOn (fun _ => outcome) outcome :=
  ⟨0, fun _ h => absurd h (Nat.not_lt_zero _), fun _ _ => rfl⟩

/-- One level more needs one more depth. -/
theorem succ {later : Nat → Outcome β} {f : Outcome α → Outcome β} (h : SettlesOn outcomes outcome)
    (hzero : later 0 = .unfinished) (hsucc : ∀ depth, later (depth + 1) = f (outcomes depth))
    (hf : f .unfinished = .unfinished) : SettlesOn later (f outcome) := by
  obtain ⟨least, hbelow, hfrom⟩ := h
  refine ⟨least + 1, fun depth hdepth => ?_, fun depth hdepth => ?_⟩
  · cases depth with
    | zero => exact hzero
    | succ depth => rw [hsucc, hbelow depth (Nat.lt_of_succ_lt_succ hdepth), hf]
  · cases depth with
    | zero => exact absurd hdepth (Nat.not_succ_le_zero _)
    | succ depth => rw [hsucc, hfrom depth (Nat.le_of_succ_le_succ hdepth)]

end SettlesOn

namespace Environment

variable {env : Environment} {name : String} {args : List Argument} {outcome : Outcome Json}

/-! ### The depth of a call -/

theorem exists_depth (env : Environment) (name : String) (args : List Argument) :
    ∃ depth, env.call name args = env.callWithin (depth + 1) name args :=
  (env.callFrom name args (env.depthFor args)).property

/-- Calls go by the next depth as long as runs are cut short. -/
theorem callFrom_eq (env : Environment) (name : String) (args : List Argument) (depth : Nat) :
    env.callFrom name args depth =
      match env.attempt name args depth with
      | .inl more => env.callFrom name args more
      | .inr run => run := by
  unfold callFrom
  rw [repeatM_eq_of_monadTail, repeatM.body, pure_bind]
  cases env.attempt name args depth <;> rfl

theorem callFrom_of_finished {depth : Nat}
    (h : (env.callWithin (depth + 1) name args).outcome = outcome)
    (hfinal : outcome ≠ .unfinished) :
    (env.callFrom name args depth).val.outcome = outcome := by
  have hfinished : (env.callWithin (depth + 1) name args).isFinished = true :=
    Run.isFinished_iff.mpr (h ▸ hfinal)
  rw [callFrom_eq, attempt, if_pos hfinished]
  exact h

theorem callFrom_of_cut {depth : Nat}
    (h : (env.callWithin (depth + 1) name args).outcome = .unfinished) :
    env.callFrom name args depth = env.callFrom name args (2 * depth + 1) := by
  have hcut : ¬ (env.callWithin (depth + 1) name args).isFinished = true :=
    fun hfinished => Run.isFinished_iff.mp hfinished h
  rw [callFrom_eq, attempt, if_neg hcut]

/-! ### Settled calls -/

/-- A call comes to an outcome, given room enough for the calls within it. -/
def ComesTo (env : Environment) (name : String) (args : List Argument) (outcome : Outcome Json) :
    Prop :=
  SettlesOn (fun depth => (env.callWithin depth name args).outcome) outcome

/-- The body of a function comes to an outcome, given room enough for the calls within it. -/
def BodyComesTo (env : Environment) (spec : FunctionSpec) (args : List Argument)
    (outcome : Outcome Json) : Prop :=
  SettlesOn (fun depth => (spec.body (env.hostWithin depth) args).outcome) outcome

/-- Trying with twice the depth again and again finds what a call comes to. -/
theorem ComesTo.callFrom {least : Nat} (hfinal : outcome ≠ .unfinished)
    (hbelow : ∀ depth, depth < least → (env.callWithin depth name args).outcome = .unfinished)
    (hfrom : ∀ depth, least ≤ depth → (env.callWithin depth name args).outcome = outcome)
    (tries depth : Nat) (hleast : least ≤ depth + tries) :
    (env.callFrom name args depth).val.outcome = outcome := by
  induction tries generalizing depth with
  | zero => exact callFrom_of_finished (hfrom _ (by omega)) hfinal
  | succ tries ih =>
    by_cases hle : least ≤ depth + 1
    · exact callFrom_of_finished (hfrom _ hle) hfinal
    · rw [callFrom_of_cut (hbelow _ (by omega))]
      exact ih _ (by omega)

/-- A call that settles on a value or a failure comes to it. -/
theorem ComesTo.outcome_call (h : env.ComesTo name args outcome)
    (hfinal : outcome ≠ .unfinished) : (env.call name args).outcome = outcome := by
  obtain ⟨least, hbelow, hfrom⟩ := h
  exact ComesTo.callFrom hfinal hbelow hfrom least _ (Nat.le_add_left _ _)

end Environment

end QueryFunctions
