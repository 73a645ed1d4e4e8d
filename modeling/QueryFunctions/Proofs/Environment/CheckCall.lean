import QueryFunctions.Proofs.Environment.Register
import QueryFunctions.Proofs.Function.Validation
import QueryFunctions.Proofs.Library.Failures

/-! Checks before calls. A call can be checked by its name and the number of its arguments,
before there are any. The main statement is that the check and the call agree: what the check
refuses the call refuses for the same reason, without running anything, and what it lets pass
is left to the types of the arguments and to the body. Bodies can check the calls that they make
in the same way. -/

namespace QueryFunctions

theorem Failure.within_self {reason : Failure} {function : String}
    (h : reason.function = function) : reason.within function = reason := by
  subst h
  unfold within
  split <;> rfl

theorem Signature.checkTypes_error {signature : Signature} {function : String} {reason : Failure}
    {index : Nat} {args : List Argument}
    (h : signature.checkTypes function index args = .error reason) :
    reason.kind = .argumentType := by
  obtain ⟨i, arg, expected, -, -, -, -, rfl⟩ := checkTypes_eq_error h
  rfl

namespace FunctionSpec

variable {spec : FunctionSpec} {host : Host} {args : List Argument}

theorem call_of_not_accepts (h : spec.signature.arity.accepts args.length = false) :
    spec.call host args =
      ⟨[.rejected spec.name ⟨.arity spec.name spec.signature.arity args.length, spec.name⟩],
        .failure ⟨.arity spec.name spec.signature.arity args.length, spec.name⟩⟩ := by
  rw [call, Signature.validate_of_not_accepts h]
  change (⟨_, .failure (Failure.within _ _)⟩ : Run Json) = _
  rw [Failure.within_self rfl]
  rfl

/-- A call with a right number of arguments is the check of their types and the body. -/
theorem call_of_accepts (h : spec.signature.arity.accepts args.length = true) :
    spec.call host args = spec.blame (do
      Run.ofExcept (spec.signature.checkTypes spec.name 0 args)
      spec.body host args) := by
  rw [call, Signature.validate_of_accepts h]

end FunctionSpec

namespace Environment

variable {env : Environment} {name : String} {spec : FunctionSpec} {reason : Failure}
  {count : Nat} {args : List Argument}

/-! ### The check -/

theorem checkCall_of_error (h : env.resolve name = .error reason) (count : Nat) :
    env.checkCall name count = .error reason := by
  rw [checkCall, h]
  rfl

theorem checkCall_of_ok (h : env.resolve name = .ok spec) (count : Nat) :
    env.checkCall name count =
      if spec.signature.arity.accepts count then .ok spec
      else .error ⟨.arity name spec.signature.arity count, name⟩ := by
  rw [checkCall, h]
  change (spec.signature.checkArity name count >>= fun _ => _) = _
  unfold Signature.checkArity
  split_ifs <;> rfl

theorem callWithin_of_error (h : env.resolve name = .error reason) (depth : Nat)
    (args : List Argument) :
    env.callWithin depth name args = ⟨[.calling name args.length], .failure reason⟩ := by
  rw [callWithin_eq, h]
  rfl

/-- What a call reports and comes to when the check refuses it. -/
def refusedRun (name : String) (count : Nat) (reason : Failure) : Run Json :=
  match reason.kind with
  | .arity => ⟨[.calling name count, .rejected name reason], .failure reason⟩
  | _ => ⟨[.calling name count], .failure reason⟩

/-- A call that the check refuses comes to the failure of the check, at any depth. -/
theorem callWithin_of_checkCall_error (henv : env.WellNamed)
    (h : env.checkCall name args.length = .error reason) (depth : Nat) :
    env.callWithin (depth + 1) name args = refusedRun name args.length reason := by
  cases hresolve : env.resolve name with
  | error reason' =>
    rw [checkCall_of_error hresolve] at h
    obtain rfl := Except.error.inj h
    rw [callWithin_of_error hresolve, eq_of_resolve_eq_error hresolve]
    rfl
  | ok spec =>
    obtain rfl := henv.name_eq hresolve
    rw [checkCall_of_ok hresolve] at h
    split_ifs at h with haccepts
    obtain rfl := Except.error.inj h
    rw [callWithin_of_ok hresolve, FunctionSpec.call_of_not_accepts (by simpa using haccepts)]
    rfl

/-- What a call reports and comes to when the check lets it pass: the types are checked before
the body runs, and failures of both are attributed to the function. -/
def passedRun (env : Environment) (depth : Nat) (name : String) (spec : FunctionSpec)
    (args : List Argument) : Run Json := do
  Run.report (.calling name args.length)
  spec.blame (do
    Run.ofExcept (spec.signature.checkTypes name 0 args)
    spec.body (env.hostWithin depth) args)

/-- A call that the check lets pass is the check of types followed by the body, at any depth. -/
theorem callWithin_of_checkCall_ok (henv : env.WellNamed)
    (h : env.checkCall name args.length = .ok spec) (depth : Nat) :
    env.resolve name = .ok spec ∧ spec.name = name ∧
      env.callWithin (depth + 1) name args = passedRun env depth name spec args := by
  cases hresolve : env.resolve name with
  | error reason => rw [checkCall_of_error hresolve] at h; cases h
  | ok found =>
    rw [checkCall_of_ok hresolve] at h
    split_ifs at h with haccepts
    obtain rfl := Except.ok.inj h
    have hname := henv.name_eq hresolve
    refine ⟨rfl, hname, ?_⟩
    rw [callWithin_of_ok hresolve, FunctionSpec.call_of_accepts haccepts, hname]
    rfl

variable {run : FunctionSpec → List Argument → Run Json} {callee : Callee} {depth : Nat}

theorem hostFor_checkCall_of_ok (h : env.checkCall name count = .ok spec)
    (run : FunctionSpec → List Argument → Run Json) :
    (env.hostFor run).checkCall name count = .ok ⟨spec.name, spec.signature, run spec⟩ := by
  change (env.checkCall name count).map _ = _
  rw [h]
  rfl

theorem hostFor_checkCall_of_error (h : env.checkCall name count = .error reason)
    (run : FunctionSpec → List Argument → Run Json) :
    (env.hostFor run).checkCall name count = .error reason := by
  change (env.checkCall name count).map _ = _
  rw [h]
  rfl

/-- A check by a body finds what a check of the environment finds. -/
theorem hostFor_checkCall_eq_ok (h : (env.hostFor run).checkCall name count = .ok callee) :
    ∃ spec, env.checkCall name count = .ok spec ∧
      callee = ⟨spec.name, spec.signature, run spec⟩ := by
  cases hcheck : env.checkCall name count with
  | error reason =>
    rw [hostFor_checkCall_of_error hcheck] at h
    cases h
  | ok spec =>
    rw [hostFor_checkCall_of_ok hcheck] at h
    exact ⟨spec, rfl, (Except.ok.inj h).symm⟩

/-- A body that calls what it has found by a check does as if it called by name, only that no
call is reported. -/
theorem hostWithin_call_of_checkCall_ok (henv : env.WellNamed)
    (h : (env.hostWithin depth).checkCall name args.length = .ok callee) :
    callee.name = name ∧
      (env.hostWithin depth).call name args = (do
        Run.report (.calling name args.length)
        callee.call args) := by
  obtain ⟨spec, hcheck, rfl⟩ := hostFor_checkCall_eq_ok h
  obtain ⟨hresolve, hname, -⟩ := callWithin_of_checkCall_ok henv hcheck 0
  refine ⟨hname, ?_⟩
  change env.callWithin depth name args = _
  rw [callWithin_eq, hresolve]
  rfl

/-- A body whose check is refused has its call refused so too, if there is room for it. -/
theorem hostWithin_call_of_checkCall_error (henv : env.WellNamed)
    (h : (env.hostWithin (depth + 1)).checkCall name args.length = .error reason) :
    (env.hostWithin (depth + 1)).call name args = refusedRun name args.length reason := by
  refine callWithin_of_checkCall_error henv ?_ depth
  cases hcheck : env.checkCall name args.length with
  | error reason' =>
    rw [hostWithin, hostFor_checkCall_of_error hcheck] at h
    exact congrArg Except.error (Except.error.inj h)
  | ok spec =>
    rw [hostWithin, hostFor_checkCall_of_ok hcheck] at h
    cases h

/-! ### Calls that are let pass -/

end Environment

end QueryFunctions
