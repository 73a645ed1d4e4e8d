import Mathlib.Tactic.SplitIfs
import QueryFunctions.Library.Standard
import QueryFunctions.Proofs.Environment.Nesting

/-! Calls on values and texts, said without their reports. A call whose arguments meet the
signature comes to what the body does. For the functions with patterns that depends on the
pattern bound to the text alone; every failure of such a call names the function. -/

namespace QueryFunctions

variable {α β : Type}

/-- Goes on with the value of an outcome, if it is one. -/
def Outcome.andThen (outcome : Outcome α) (next : α → Outcome β) : Outcome β :=
  match outcome with
  | .value a => next a
  | .failure reason => .failure reason
  | .unfinished => .unfinished

/-- The outcome of a call of a function, which failures are attributed to. -/
def Outcome.within (function : String) : Outcome α → Outcome α
  | .failure reason => .failure (reason.within function)
  | outcome => outcome

theorem Run.outcome_bind (run : Run α) (next : α → Run β) :
    (run >>= next).outcome = run.outcome.andThen fun a => (next a).outcome := by
  change (run.andThen next).outcome = _
  unfold Run.andThen Outcome.andThen
  cases run.outcome <;> rfl

theorem FunctionSpec.outcome_blame (spec : FunctionSpec) (run : Run Json) :
    (spec.blame run).outcome = run.outcome.within spec.name := by
  unfold blame
  cases h : run.outcome <;> simp [Outcome.within, h]

/-- A function comes to what its body comes to, if its arguments pass. -/
theorem FunctionSpec.outcome_call (spec : FunctionSpec) (host : Host) (args : List Argument) :
    (spec.call host args).outcome =
      ((Run.ofExcept (spec.signature.validate spec.name args)).outcome.andThen fun _ =>
        (spec.body host args).outcome).within spec.name := by
  rw [call, outcome_blame, Run.outcome_bind]

namespace Environment

variable {env : Environment} {name : String} {spec : FunctionSpec} {args : List Argument}

theorem callWithin_eq (env : Environment) (depth : Nat) (name : String) (args : List Argument) :
    env.callWithin depth name args = (do
      Run.report (.calling name args.length)
      let spec ← Run.ofExcept (env.resolve name)
      env.runWithin depth spec args) :=
  rfl

theorem callWithin_of_ok (h : env.resolve name = .ok spec) (depth : Nat) (args : List Argument) :
    env.callWithin (depth + 1) name args = (do
      Run.report (.calling name args.length)
      spec.call (env.hostWithin depth) args) := by
  rw [callWithin_eq, h]
  rfl

/-- A registered function is not run without room for it. -/
theorem outcome_callWithin_zero (h : env.resolve name = .ok spec) (args : List Argument) :
    (env.callWithin 0 name args).outcome = .unfinished := by
  rw [callWithin_eq, h]
  rfl

/-- A registered function is called by checking the arguments and running the body. -/
theorem outcome_callWithin_of_ok (h : env.resolve name = .ok spec) (depth : Nat) :
    (env.callWithin (depth + 1) name args).outcome =
      ((Run.ofExcept (spec.signature.validate spec.name args)).outcome.andThen fun _ =>
        (spec.body (env.hostWithin depth) args).outcome).within spec.name := by
  rw [callWithin_of_ok h, Run.outcome_bind]
  exact spec.outcome_call _ args

end Environment

/-- The outcome of something that a pattern may be refused for, before a function is blamed. -/
def Outcome.ofPattern : Except Pattern.Refusal α → Outcome α
  | .ok a => .value a
  | .error refusal => .failure ⟨.pattern refusal, ""⟩

theorem Run.outcome_ofPattern (result : Except Pattern.Refusal α) :
    (Run.ofPattern result).outcome = .ofPattern result := by
  cases result <;> rfl

namespace Library

/-! ### Patterns bound to texts -/

variable {set : Pattern.FlagSet} {limits : Pattern.Limits} {pattern flags text : String}
  {compiled : Pattern.Compiled} {refusal : Pattern.Refusal}

/-- The modes of the guard are those of the flags, so it builds what a pattern is compiled to. -/
theorem build_guardModes (set : Pattern.FlagSet) (limits : Pattern.Limits) (pattern : String) :
    Pattern.build set.guardModes limits (set.source pattern.toList) =
      Pattern.compile set limits pattern := by
  rw [Pattern.FlagSet.guardModes_eq_modes, Pattern.compile]

theorem guardRefuses_of_compile (h : Pattern.compile set limits pattern = .ok compiled)
    (text : String) :
    Pattern.guardRefuses set limits pattern text = .ok (compiled.matchesEmptyTextIn text) := by
  rw [Pattern.guardRefuses, build_guardModes, h]
  rfl

theorem bindPattern_of_flags_error (h : Pattern.FlagSet.parse flags = .error refusal) :
    bindPattern limits pattern flags text = .fail ⟨.pattern refusal, ""⟩ := by
  unfold bindPattern
  rw [h]
  rfl

theorem bindPattern_of_compile_error (hflags : Pattern.FlagSet.parse flags = .ok set)
    (hcompile : Pattern.compile set limits pattern = .error refusal) :
    bindPattern limits pattern flags text = .fail ⟨.pattern refusal, ""⟩ := by
  unfold bindPattern
  rw [hflags]
  change (Run.ofPattern (Pattern.compile set limits pattern) >>= _ : Run Pattern.Compiled) = _
  rw [hcompile]
  rfl

/-- Binding a pattern that has compiled reports that and asks the guard. -/
theorem bindPattern_of_ok (hflags : Pattern.FlagSet.parse flags = .ok set)
    (hcompile : Pattern.compile set limits pattern = .ok compiled) (text : String) :
    bindPattern limits pattern flags text =
      if compiled.matchesEmptyTextIn text then
        ⟨[.compiled pattern set, .matchesEmptyText pattern],
          .failure ⟨.pattern .matchesEmptyText, ""⟩⟩
      else ⟨[.compiled pattern set], .value compiled⟩ := by
  unfold bindPattern
  rw [hflags]
  change (Run.ofPattern (Pattern.compile set limits pattern) >>= _ : Run Pattern.Compiled) = _
  rw [hcompile]
  change (Run.report _ >>= fun _ => Run.ofPattern (Pattern.guardRefuses set limits pattern text)
    >>= _ : Run Pattern.Compiled) = _
  rw [guardRefuses_of_compile hcompile]
  change (Run.report _ >>= fun _ => if compiled.matchesEmptyTextIn text then _ else _ :
    Run Pattern.Compiled) = _
  split_ifs <;> rfl

theorem outcome_bindPattern (limits : Pattern.Limits) (pattern flags text : String) :
    (bindPattern limits pattern flags text).outcome =
      (Outcome.ofPattern (Pattern.FlagSet.parse flags)).andThen fun flags =>
        (Outcome.ofPattern (Pattern.compile flags limits pattern)).andThen fun compiled =>
          .ofPattern (if compiled.matchesEmptyTextIn text then .error .matchesEmptyText
            else .ok compiled) := by
  cases hflags : Pattern.FlagSet.parse flags with
  | error refusal =>
    rw [bindPattern_of_flags_error hflags]
    rfl
  | ok set =>
    rw [Outcome.ofPattern, Outcome.andThen]
    cases hcompile : Pattern.compile set limits pattern with
    | error refusal =>
      rw [bindPattern_of_compile_error hflags hcompile]
      rfl
    | ok compiled =>
      rw [bindPattern_of_ok hflags hcompile, Outcome.ofPattern, Outcome.andThen]
      split_ifs <;> rfl

/-- A pattern is bound to a text if the flags are right, it compiles under them and the guard
lets it pass. -/
theorem bindPattern_value :
    (bindPattern limits pattern flags text).outcome = .value compiled ↔
      ∃ set, Pattern.FlagSet.parse flags = .ok set ∧
        Pattern.compile set limits pattern = .ok compiled ∧
        compiled.matchesEmptyTextIn text = false := by
  constructor
  · intro h
    cases hflags : Pattern.FlagSet.parse flags with
    | error refusal => rw [bindPattern_of_flags_error hflags] at h; cases h
    | ok set =>
      cases hcompile : Pattern.compile set limits pattern with
      | error refusal => rw [bindPattern_of_compile_error hflags hcompile] at h; cases h
      | ok compiled' =>
        rw [bindPattern_of_ok hflags hcompile] at h
        split_ifs at h with hempty
        obtain rfl := Outcome.value.inj h
        exact ⟨set, rfl, hcompile, by simpa using hempty⟩
  · rintro ⟨set, hflags, hcompile, hempty⟩
    rw [bindPattern_of_ok hflags hcompile, hempty]
    rfl

end Library

/-! ### Calls -/

namespace Environment

variable {env : Environment} {name : String} {spec : FunctionSpec}

theorem exists_outcome_call (args : List Argument) (hresolve : env.resolve name = .ok spec)
    (hvalid : spec.signature.validate spec.name args = .ok ()) :
    ∃ host : Host, host.limits = env.limits ∧
      (env.call name args).outcome = (spec.body host args).outcome.within spec.name := by
  obtain ⟨depth, hdepth⟩ := env.exists_depth name args
  refine ⟨env.hostWithin depth, rfl, ?_⟩
  rw [hdepth, outcome_callWithin_of_ok hresolve, hvalid]
  rfl

def onTexts (env : Environment) (name : String) (texts : List String) : Outcome Json :=
  (env.call name (texts.map fun text => .value (.string text))).outcome

theorem onTexts_eq (texts : List String) (hresolve : env.resolve name = .ok spec)
    (hvalid : spec.signature.validate spec.name (texts.map fun text => .value (.string text)) =
      .ok ()) :
    ∃ host : Host, host.limits = env.limits ∧ env.onTexts name texts =
      ((spec.body host (texts.map fun text => .value (.string text))).outcome).within
        spec.name :=
  exists_outcome_call _ hresolve hvalid

open Library

variable (text pattern : String) (flags : Option String)

theorem onTexts_matches
    (h : env.resolve "matches" = .ok ⟨"matches", .ranged 2 3 .string, matchesBody⟩) :
    env.onTexts "matches" ([text, pattern] ++ flags.toList) =
      ((bindPattern env.limits pattern (flags.getD "") text).outcome.andThen fun compiled =>
        .value (.bool !(compiled.segments text).rest.isEmpty)).within "matches" := by
  obtain ⟨host, hlimits, hcall⟩ := onTexts_eq ([text, pattern] ++ flags.toList) h
    (by cases flags <;> rfl)
  rw [hcall, ← hlimits]
  cases flags <;> exact congrArg (Outcome.within "matches") (Run.outcome_bind ..)

theorem onTexts_tokenize
    (h : env.resolve "tokenize" = .ok ⟨"tokenize", .ranged 1 3 .string, tokenize⟩) :
    env.onTexts "tokenize" ([text, pattern] ++ flags.toList) =
      ((bindPattern env.limits pattern (flags.getD "") text).outcome.andThen fun compiled =>
        .value (.ofStrings (gapTexts (compiled.segments text)))).within "tokenize" := by
  obtain ⟨host, hlimits, hcall⟩ := onTexts_eq ([text, pattern] ++ flags.toList) h
    (by cases flags <;> rfl)
  rw [hcall, ← hlimits]
  cases flags <;> exact congrArg (Outcome.within "tokenize") (Run.outcome_bind ..)

theorem onTexts_replace
    (h : env.resolve "replace" = .ok ⟨"replace", .ranged 3 4 .string, replace⟩)
    (replacement : String) :
    env.onTexts "replace" ([text, pattern, replacement] ++ flags.toList) =
      ((bindPattern env.limits pattern (flags.getD "") text).outcome.andThen fun compiled =>
        (Outcome.ofPattern (compiled.template replacement)).andThen fun template =>
          .value (.string (compiled.replace text template))).within "replace" := by
  obtain ⟨host, hlimits, hcall⟩ := onTexts_eq ([text, pattern, replacement] ++ flags.toList) h
    (by cases flags <;> rfl)
  rw [hcall, ← hlimits]
  have hbody (compiled : Pattern.Compiled) :
      (Run.ofPattern (compiled.template replacement) >>= fun template =>
        pure (Json.string (compiled.replace text template))).outcome =
      (Outcome.ofPattern (compiled.template replacement)).andThen fun template =>
        .value (Json.string (compiled.replace text template)) := by
    rw [Run.outcome_bind, Run.outcome_ofPattern]
    rfl
  cases flags <;>
    exact congrArg (Outcome.within "replace") ((Run.outcome_bind ..).trans
      (congrArg _ (funext hbody)))

end Environment

namespace Library

/-- What a standard function comes to on values. -/
def onValues (limits : Pattern.Limits) (name : String) (values : List Json) : Outcome Json :=
  ((Environment.standard.withLimits limits).call name (values.map .value)).outcome

theorem onValues_eq {limits : Pattern.Limits} {name : String} {spec : FunctionSpec}
    {values : List Json} {result : Json}
    (hresolve : (Environment.standard.withLimits limits).resolve name = .ok spec)
    (hvalid : spec.signature.validate spec.name (values.map .value) = .ok ())
    (hbody : ∀ host, (spec.body host (values.map .value)).outcome = .value result) :
    onValues limits name values = .value result := by
  obtain ⟨host, -, hcall⟩ := Environment.exists_outcome_call _ hresolve hvalid
  rw [onValues, hcall, hbody host]
  rfl

theorem validate_any (name : String) (v w : Json) :
    (Signature.exact [.any, .any]).validate name ([v, w].map .value) = .ok () := by
  cases v <;> cases w <;> rfl

theorem onValues_substringBefore (limits : Pattern.Limits) (v w : Json) :
    onValues limits "substring_before" [v, w] =
      .value (.string (.ofList (substringBefore v.coerced.toList w.coerced.toList))) :=
  onValues_eq rfl (validate_any _ v w) fun _ => rfl

theorem onValues_substringAfter (limits : Pattern.Limits) (v w : Json) :
    onValues limits "substring_after" [v, w] =
      .value (.string (.ofList (substringAfter v.coerced.toList w.coerced.toList))) :=
  onValues_eq rfl (validate_any _ v w) fun _ => rfl

def onTexts (limits : Pattern.Limits) (name : String) (texts : List String) : Outcome Json :=
  (Environment.standard.withLimits limits).onTexts name texts

variable (limits : Pattern.Limits) (text pattern : String) (flags : Option String)

theorem onTexts_matches :
    onTexts limits "matches" ([text, pattern] ++ flags.toList) =
      ((bindPattern limits pattern (flags.getD "") text).outcome.andThen fun compiled =>
        .value (.bool !(compiled.segments text).rest.isEmpty)).within "matches" :=
  Environment.onTexts_matches text pattern flags rfl

theorem onTexts_tokenize :
    onTexts limits "tokenize" ([text, pattern] ++ flags.toList) =
      ((bindPattern limits pattern (flags.getD "") text).outcome.andThen fun compiled =>
        .value (.ofStrings (gapTexts (compiled.segments text)))).within "tokenize" :=
  Environment.onTexts_tokenize text pattern flags rfl

theorem onTexts_replace (replacement : String) :
    onTexts limits "replace" ([text, pattern, replacement] ++ flags.toList) =
      ((bindPattern limits pattern (flags.getD "") text).outcome.andThen fun compiled =>
        (Outcome.ofPattern (compiled.template replacement)).andThen fun template =>
          .value (.string (compiled.replace text template))).within "replace" :=
  Environment.onTexts_replace text pattern flags rfl replacement

theorem onTexts_substringBefore (needle : String) :
    onTexts limits "substring_before" [text, needle] =
      .value (.string (String.ofList (substringBefore text.toList needle.toList))) :=
  onValues_substringBefore limits (.string text) (.string needle)

theorem onTexts_substringAfter (needle : String) :
    onTexts limits "substring_after" [text, needle] =
      .value (.string (String.ofList (substringAfter text.toList needle.toList))) :=
  onValues_substringAfter limits (.string text) (.string needle)

end Library

end QueryFunctions
