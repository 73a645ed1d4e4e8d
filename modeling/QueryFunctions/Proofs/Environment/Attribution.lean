import QueryFunctions.Proofs.Environment.CheckCall

/-! Failures on their way out of nested calls. Every call on the way offers its name to the
failure, which takes the first one if it has none yet; nothing else about it changes. The main
statement is that a failure of the innermost of any number of calls reaches the outermost one
with the same cause, and with the first name on the way that is not empty. -/

namespace QueryFunctions

/-- The first of some names that is not empty, if any is. -/
def firstNamed (names : List String) : String := (names.find? (!·.isEmpty)).getD ""

theorem firstNamed_concat (names : List String) (name : String) :
    firstNamed (names ++ [name]) =
      if (firstNamed names).isEmpty then name else firstNamed names := by
  unfold firstNamed
  rw [List.find?_append]
  cases hfind : names.find? (!·.isEmpty) with
  | none => by_cases hname : name.isEmpty <;> simp_all
  | some found =>
    have hfound := List.find?_some hfind
    simp_all

/-- The failure with the first of some names that is not empty. -/
def Failure.named (reason : Failure) (names : List String) : Failure :=
  { reason with function := firstNamed names }

theorem Failure.named_self (reason : Failure) : reason.named [reason.function] = reason := by
  have hfirst : firstNamed [reason.function] = reason.function := by
    have hconcat := firstNamed_concat [] reason.function
    simpa [firstNamed] using hconcat
  rw [named, hfirst]

theorem Failure.within_named (reason : Failure) (names : List String) (function : String) :
    (reason.named names).within function = reason.named (names ++ [function]) := by
  rw [named, named, firstNamed_concat, within]
  split_ifs <;> rfl

namespace Environment

variable {env : Environment} {name next : String} {args nextArgs : List Argument}
  {spec : FunctionSpec} {specs : List FunctionSpec} {reason : Failure}

theorem resolve_error_function (h : env.resolve name = .error reason) :
    reason.function = name := by
  rw [eq_of_resolve_eq_error h]

/-! ### Single calls -/

theorem comesTo_of_resolve_error (h : env.resolve name = .error reason) (args : List Argument) :
    env.ComesTo name args (.failure reason) := by
  simp only [ComesTo, callWithin_of_error h]
  exact .const _

theorem comesTo_of_validate_error (h : env.resolve name = .ok spec)
    (hvalid : spec.signature.validate spec.name args = .error reason) :
    env.ComesTo name args (.failure reason) := by
  have hwithin : reason.within spec.name = reason :=
    Failure.within_self (Signature.validate_error_function hvalid)
  refine (SettlesOn.const (.failure reason)).succ (f := id)
    (outcome_callWithin_zero h args) (fun depth => ?_) rfl
  rw [outcome_callWithin_of_ok h, hvalid]
  exact congrArg Outcome.failure hwithin

/-- A failure of a body passes through one call, which offers it the name of the function. -/
theorem comesTo_of_bodyComesTo (h : env.resolve name = .ok spec)
    (hvalid : spec.signature.validate spec.name args = .ok ())
    (hbody : env.BodyComesTo spec args (.failure reason)) :
    env.ComesTo name args (.failure (reason.within spec.name)) := by
  refine hbody.succ (f := Outcome.within spec.name) (outcome_callWithin_zero h args)
    (fun depth => ?_) rfl
  rw [outcome_callWithin_of_ok h, hvalid]
  rfl

/-! ### Nested calls -/

/-- The body of a function hands a call on: whatever failure the other call comes to, the body
comes to that failure. -/
def HandsOn (env : Environment) (spec : FunctionSpec) (args : List Argument) (next : String)
    (nextArgs : List Argument) : Prop :=
  ∀ reason, env.ComesTo next nextArgs (.failure reason) →
    env.BodyComesTo spec args (.failure reason)

/-- A body hands a call on that makes the other call and gives back what is no value. -/
theorem handsOn_of_outcome
    (h : ∀ depth, (∀ v, (env.callWithin depth next nextArgs).outcome ≠ .value v) →
      (spec.body (env.hostWithin depth) args).outcome =
        (env.callWithin depth next nextArgs).outcome) :
    env.HandsOn spec args next nextArgs := by
  rintro reason ⟨least, hbelow, hfrom⟩
  refine ⟨least, fun depth hdepth => ?_, fun depth hdepth => ?_⟩
  · have hcut : (env.callWithin depth next nextArgs).outcome = .unfinished := hbelow depth hdepth
    exact (h depth fun v => by simp [hcut]).trans hcut
  · have hfails : (env.callWithin depth next nextArgs).outcome = .failure reason :=
      hfrom depth hdepth
    exact (h depth fun v => by simp [hfails]).trans hfails

/-- So does a body that checks the other call and then calls what it has found. -/
theorem handsOn_of_callee {found : FunctionSpec} (henv : env.WellNamed)
    (hcheck : env.checkCall next nextArgs.length = .ok found)
    (h : ∀ depth callee, (env.hostWithin depth).checkCall next nextArgs.length = .ok callee →
      (∀ v, (callee.call nextArgs).outcome ≠ .value v) →
        (spec.body (env.hostWithin depth) args).outcome = (callee.call nextArgs).outcome) :
    env.HandsOn spec args next nextArgs := by
  refine handsOn_of_outcome fun depth hfails => ?_
  have hfound := hostFor_checkCall_of_ok hcheck (env.runWithin depth)
  obtain ⟨-, hcall⟩ := hostWithin_call_of_checkCall_ok henv hfound
  have hsame : (env.callWithin depth next nextArgs).outcome =
      (env.runWithin depth found nextArgs).outcome := by
    rw [callWithin, hcall, Run.outcome_bind]
    rfl
  rw [hsame] at hfails ⊢
  exact h depth _ hfound hfails

/-- How a failure arises in the innermost call. -/
inductive Raises (env : Environment) (spec : FunctionSpec) (args : List Argument) :
    Failure → Prop
  | byBody {reason : Failure} (valid : spec.signature.validate spec.name args = .ok ())
    (body : env.BodyComesTo spec args (.failure reason)) : Raises env spec args reason
  | byArguments {reason : Failure}
    (invalid : spec.signature.validate spec.name args = .error reason) :
    Raises env spec args reason
  | byName {reason : Failure} {next : String} {nextArgs : List Argument}
    (valid : spec.signature.validate spec.name args = .ok ())
    (handsOn : env.HandsOn spec args next nextArgs)
    (unknown : env.resolve next = .error reason) : Raises env spec args reason

/-- Calls within calls, each of which hands on to the next one and the last of which raises a
failure. The functions are listed from the outermost to the innermost. -/
inductive FailsThrough (env : Environment) :
    String → List Argument → List FunctionSpec → Failure → Prop
  | last {name : String} {args : List Argument} {spec : FunctionSpec} {reason : Failure}
    (registered : env.resolve name = .ok spec) (raises : env.Raises spec args reason) :
    FailsThrough env name args [spec] reason
  | next {name next : String} {args nextArgs : List Argument} {spec : FunctionSpec}
    {specs : List FunctionSpec} {reason : Failure} (registered : env.resolve name = .ok spec)
    (valid : spec.signature.validate spec.name args = .ok ())
    (handsOn : env.HandsOn spec args next nextArgs)
    (later : FailsThrough env next nextArgs specs reason) :
    FailsThrough env name args (spec :: specs) reason

/-- The innermost call offers its name, whichever way its failure arises. -/
theorem Raises.comesTo (h : env.Raises spec args reason) (hresolve : env.resolve name = .ok spec) :
    env.ComesTo name args (.failure (reason.named [reason.function, spec.name])) := by
  have hnamed : reason.named [reason.function, spec.name] = reason.within spec.name := by
    rw [← List.singleton_append, ← Failure.within_named, Failure.named_self]
  rw [hnamed]
  cases h with
  | byBody valid body => exact comesTo_of_bodyComesTo hresolve valid body
  | byArguments invalid =>
    rw [Failure.within_self (Signature.validate_error_function invalid)]
    exact comesTo_of_validate_error hresolve invalid
  | byName valid handsOn unknown =>
    exact comesTo_of_bodyComesTo hresolve valid
      (handsOn reason (comesTo_of_resolve_error unknown _))

/-- A failure on its way out takes the first name that is offered to it. -/
theorem FailsThrough.comesTo (h : env.FailsThrough name args specs reason) :
    env.ComesTo name args
      (.failure (reason.named (reason.function :: (specs.map (·.name)).reverse))) := by
  induction h with
  | last registered raises => exact raises.comesTo registered
  | next registered valid handsOn later ih =>
    have hcome := comesTo_of_bodyComesTo registered valid (handsOn _ ih)
    rwa [Failure.within_named, List.cons_append, ← List.reverse_cons, ← List.map_cons] at hcome

/-- A failure that is raised in the innermost of any number of calls reaches the outermost one
with its kind and message. It is attributed to the first name that is not empty of its own one
and those of the functions from the innermost to the outermost. Arguments that are refused name
the function they are meant for, and a name without a function names itself. -/
theorem nested_failure_attributed (h : env.FailsThrough name args specs reason) :
    (∃ failure, (env.call name args).outcome = .failure failure ∧
      failure.kind = reason.kind ∧ failure.message = reason.message ∧
      failure.function = firstNamed (reason.function :: (specs.map (·.name)).reverse)) ∧
    (∀ (spec : FunctionSpec) args reason,
      spec.signature.validate spec.name args = .error reason → reason.function = spec.name) ∧
    ∀ name reason, env.resolve name = .error reason → reason.function = name := by
  refine ⟨?_, fun _ _ _ => Signature.validate_error_function, fun _ _ => resolve_error_function⟩
  have hcall := h.comesTo.outcome_call (by simp)
  exact ⟨_, hcall, rfl, rfl, rfl⟩

/-- The body that calls the function named by its first argument with the other ones. -/
def relay : Body := fun host args => host.call (textAt args 0) (args.drop 1)

theorem relay_handsOn (env : Environment) (name : String) (signature : Signature)
    (args : List Argument) :
    env.HandsOn ⟨name, signature, relay⟩ args (textAt args 0) (args.drop 1) :=
  handsOn_of_outcome fun _ _ => rfl

/-- Two functions that call each other in turn, one of which has no name. The innermost call
fails by the number of its arguments, without a name to be attributed to. -/
theorem nested_failure_attributed_in_turn :
    let named : FunctionSpec := ⟨"relay", .variadic 1 .any, relay⟩
    let unnamed : FunctionSpec := ⟨"", .variadic 1 .any, relay⟩
    let env := after {} [.add named, .add unnamed]
    let args : List Argument :=
      [.value (.string ""), .value (.string "relay"), .value (.string "")]
    env.FailsThrough "relay" args [named, unnamed, named, unnamed]
        ⟨.arity "" (.atLeast 1) 0, ""⟩ ∧
      ∃ failure, (env.call "relay" args).outcome = .failure failure ∧
        failure.kind = .arity ∧ failure.function = "relay" := by
  intro named unnamed env args
  have hnamed : env.resolve "relay" = .ok named := resolve_after {} _ "relay"
  have hunnamed : env.resolve "" = .ok unnamed := resolve_after {} _ ""
  have hrefused : env.FailsThrough "" [] [unnamed] ⟨.arity "" (.atLeast 1) 0, ""⟩ :=
    .last hunnamed (.byArguments rfl)
  have hthird : env.FailsThrough "relay" (args.drop 2) [named, unnamed] _ :=
    .next hnamed rfl (relay_handsOn env _ _ _) hrefused
  have hsecond : env.FailsThrough "" (args.drop 1) [unnamed, named, unnamed] _ :=
    .next hunnamed rfl (relay_handsOn env _ _ _) hthird
  have hfirst : env.FailsThrough "relay" args [named, unnamed, named, unnamed] _ :=
    .next hnamed rfl (relay_handsOn env _ _ _) hsecond
  obtain ⟨⟨failure, hcall, hkind, -, hfunction⟩, -⟩ := nested_failure_attributed hfirst
  exact ⟨hfirst, failure, hcall, hkind, hfunction⟩

end Environment

end QueryFunctions
