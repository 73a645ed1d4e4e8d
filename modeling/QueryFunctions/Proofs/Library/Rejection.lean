import QueryFunctions.Proofs.Environment.Register
import QueryFunctions.Proofs.Library.PatternCalls

/-! Rejected patterns. The three functions with patterns reject the same patterns for the same
reason. It is decided by the flags first, then by compiling the pattern, and at last by the guard
against empty matches; only the guard looks at the text. A matcher that the guard builds for
itself cannot add a reason of its own. -/

namespace QueryFunctions

/-- The kind and the message of a failure, where an outcome is one. -/
def Outcome.complaint? {α : Type} : Outcome α → Option (FailureKind × String)
  | .failure reason => some (reason.kind, reason.message)
  | _ => none

namespace Library

open Pattern

variable {limits : Limits} {pattern flags : String} {refusal : Refusal} {compiled : Compiled}

/-- Compiles a pattern under flags that are given as a text. -/
def compileUnder (limits : Limits) (pattern flags : String) : Except Refusal Compiled := do
  compile (← FlagSet.parse flags) limits pattern

theorem compileUnder_of_flags_error (h : FlagSet.parse flags = .error refusal) :
    compileUnder limits pattern flags = .error refusal := by
  rw [compileUnder, h]
  rfl

theorem compileUnder_of_flags_ok {set : FlagSet} (h : FlagSet.parse flags = .ok set) :
    compileUnder limits pattern flags = compile set limits pattern := by
  rw [compileUnder, h]
  rfl

/-- Flags and compilation come before the guard, which only looks at what has compiled. -/
theorem outcome_bindPattern_eq (limits : Limits) (pattern flags text : String) :
    (bindPattern limits pattern flags text).outcome =
      (Outcome.ofPattern (compileUnder limits pattern flags)).andThen fun compiled =>
        .ofPattern (if compiled.matchesEmptyTextIn text then .error .matchesEmptyText
          else .ok compiled) := by
  rw [outcome_bindPattern]
  cases hflags : FlagSet.parse flags with
  | error refusal => rw [compileUnder_of_flags_error hflags]; rfl
  | ok set => rw [compileUnder_of_flags_ok hflags]; rfl

/-! ### A matcher of the guard's own -/

/-- What makes a matcher from modes, limits and the source of a pattern. -/
abbrev Builder := Modes → Limits → List Char → Except Refusal Compiled

/-- Given what the guard builds its matcher from, the builder accepts the patterns that can be
compiled, and no others. -/
def Builder.AcceptsAlike (builder : Builder) : Prop :=
  ∀ (set : FlagSet) (limits : Limits) (pattern : String),
    (∃ own, builder set.guardModes limits (set.source pattern.toList) = .ok own) ↔
      ∃ compiled, compile set limits pattern = .ok compiled

/-- Compiles a pattern for use on a text, where the guard goes by a matcher that another builder
makes for it. -/
def bindWith (builder : Builder) (limits : Limits) (pattern flags text : String) :
    Run Compiled := do
  let flags ← Run.ofPattern (FlagSet.parse flags)
  let compiled ← Run.ofPattern (compile flags limits pattern)
  Run.report (.compiled pattern flags)
  let own ← Run.ofPattern (builder flags.guardModes limits (flags.source pattern.toList))
  if own.matchesEmptyTextIn text then do
    Run.report (.matchesEmptyText pattern)
    Run.ofPattern (.error .matchesEmptyText)
  else pure compiled

theorem build_acceptsAlike : Builder.AcceptsAlike build := by
  intro set limits pattern
  rw [build_guardModes]

/-- Patterns are bound with a matcher that is built for the guard in the same way. -/
theorem bindWith_build (limits : Limits) (pattern flags text : String) :
    bindWith build limits pattern flags text = bindPattern limits pattern flags text := by
  unfold bindWith bindPattern
  refine congrArg _ (funext fun set => congrArg _ (funext fun compiled =>
    congrArg _ (funext fun _ => ?_)))
  unfold guardRefuses
  cases build set.guardModes limits (set.source pattern.toList) <;> rfl

/-- What does not compile is refused for that, before the guard builds anything. -/
theorem outcome_bindWith_of_error (builder : Builder)
    (h : compileUnder limits pattern flags = .error refusal) (text : String) :
    (bindWith builder limits pattern flags text).outcome =
      .failure ⟨.pattern refusal, ""⟩ := by
  unfold bindWith
  rw [Run.outcome_bind, Run.outcome_ofPattern]
  cases hflags : FlagSet.parse flags with
  | error reason =>
    rw [compileUnder_of_flags_error hflags] at h
    obtain rfl := Except.error.inj h
    rfl
  | ok set =>
    rw [compileUnder_of_flags_ok hflags] at h
    rw [Outcome.ofPattern, Outcome.andThen, Run.outcome_bind, Run.outcome_ofPattern, h]
    rfl

/-- What compiles is bound or refused for an empty match; building the guard's own matcher
cannot fail any more. -/
theorem outcome_bindWith_of_ok {builder : Builder} (halike : builder.AcceptsAlike)
    (h : compileUnder limits pattern flags = .ok compiled) (text : String) :
    ∃ set own, FlagSet.parse flags = .ok set ∧
      builder set.guardModes limits (set.source pattern.toList) = .ok own ∧
      (bindWith builder limits pattern flags text).outcome =
        .ofPattern (if own.matchesEmptyTextIn text then .error .matchesEmptyText
          else .ok compiled) := by
  cases hflags : FlagSet.parse flags with
  | error reason =>
    rw [compileUnder_of_flags_error hflags] at h
    cases h
  | ok set =>
    rw [compileUnder_of_flags_ok hflags] at h
    obtain ⟨own, hown⟩ := (halike set limits pattern).mpr ⟨compiled, h⟩
    refine ⟨set, own, rfl, hown, ?_⟩
    unfold bindWith
    rw [Run.outcome_bind, Run.outcome_ofPattern, hflags, Outcome.ofPattern, Outcome.andThen,
      Run.outcome_bind, Run.outcome_ofPattern, h, Outcome.ofPattern, Outcome.andThen,
      Run.outcome_bind, Run.report, Outcome.andThen, Run.outcome_bind, Run.outcome_ofPattern,
      hown, Outcome.ofPattern, Outcome.andThen]
    split_ifs <;> rfl

end Library

namespace Environment

open Library Pattern

variable {env : Environment} {text pattern : String} {flags : Option String}
  {refusal : Refusal} {compiled : Compiled}

/-! ### The three functions -/

def matchesOn (env : Environment) (text pattern : String) (flags : Option String) :
    Outcome Json :=
  env.onTexts "matches" ([text, pattern] ++ flags.toList)

def tokenizeOn (env : Environment) (text pattern : String) (flags : Option String) :
    Outcome Json :=
  env.onTexts "tokenize" ([text, pattern] ++ flags.toList)

def replaceOn (env : Environment) (text pattern replacement : String) (flags : Option String) :
    Outcome Json :=
  env.onTexts "replace" ([text, pattern, replacement] ++ flags.toList)

/-- The three functions refuse a pattern for a text, each under its own name. -/
structure Refuses (env : Environment) (text pattern : String) (flags : Option String)
    (refusal : Refusal) : Prop where
  matches_eq : env.matchesOn text pattern flags = .failure ⟨.pattern refusal, "matches"⟩
  tokenize_eq : env.tokenizeOn text pattern flags = .failure ⟨.pattern refusal, "tokenize"⟩
  replace_eq : ∀ replacement, env.replaceOn text pattern replacement flags =
    .failure ⟨.pattern refusal, "replace"⟩

/-- The three functions use a compiled pattern on a text. Only a replacement may be refused, if
it is no template for the groups of the pattern. -/
structure Uses (env : Environment) (text pattern : String) (flags : Option String)
    (compiled : Compiled) : Prop where
  matches_eq : ∃ found, env.matchesOn text pattern flags = .value (.bool found)
  tokenize_eq : ∃ tokens, env.tokenizeOn text pattern flags = .value (.ofStrings tokens)
  replace_eq_of_ok : ∀ replacement template, compiled.template replacement = .ok template →
    ∃ result, env.replaceOn text pattern replacement flags = .value (.string result)
  replace_eq_of_error : ∀ replacement refusal, compiled.template replacement = .error refusal →
    env.replaceOn text pattern replacement flags = .failure ⟨.pattern refusal, "replace"⟩

theorem HoldsStandard.resolve_matches (h : env.HoldsStandard) :
    env.resolve "matches" = .ok ⟨"matches", .ranged 2 3 .string, matchesBody⟩ :=
  h ⟨"matches", .ranged 2 3 .string, matchesBody⟩ (by simp [standardFunctions])

theorem HoldsStandard.resolve_tokenize (h : env.HoldsStandard) :
    env.resolve "tokenize" = .ok ⟨"tokenize", .ranged 1 3 .string, Library.tokenize⟩ :=
  h ⟨"tokenize", .ranged 1 3 .string, Library.tokenize⟩ (by simp [standardFunctions])

theorem HoldsStandard.resolve_replace (h : env.HoldsStandard) :
    env.resolve "replace" = .ok ⟨"replace", .ranged 3 4 .string, Library.replace⟩ :=
  h ⟨"replace", .ranged 3 4 .string, Library.replace⟩ (by simp [standardFunctions])

theorem refuses_of_bindPattern (henv : env.HoldsStandard)
    (h : (bindPattern env.limits pattern (flags.getD "") text).outcome =
      .failure ⟨.pattern refusal, ""⟩) : env.Refuses text pattern flags refusal where
  matches_eq := by
    rw [matchesOn, onTexts_matches text pattern flags henv.resolve_matches, h]
    rfl
  tokenize_eq := by
    rw [tokenizeOn, onTexts_tokenize text pattern flags henv.resolve_tokenize, h]
    rfl
  replace_eq replacement := by
    rw [replaceOn, onTexts_replace text pattern flags henv.resolve_replace, h]
    rfl

theorem uses_of_bindPattern (henv : env.HoldsStandard)
    (h : (bindPattern env.limits pattern (flags.getD "") text).outcome = .value compiled) :
    env.Uses text pattern flags compiled where
  matches_eq := by
    rw [matchesOn, onTexts_matches text pattern flags henv.resolve_matches, h]
    exact ⟨_, rfl⟩
  tokenize_eq := by
    rw [tokenizeOn, onTexts_tokenize text pattern flags henv.resolve_tokenize, h]
    exact ⟨_, rfl⟩
  replace_eq_of_ok replacement template htemplate := by
    rw [replaceOn, onTexts_replace text pattern flags henv.resolve_replace, h, Outcome.andThen,
      htemplate]
    exact ⟨_, rfl⟩
  replace_eq_of_error replacement refusal htemplate := by
    rw [replaceOn, onTexts_replace text pattern flags henv.resolve_replace, h, Outcome.andThen,
      htemplate]
    rfl

theorem Refuses.complaint (h : env.Refuses text pattern flags refusal) :
    (env.matchesOn text pattern flags).complaint? = some (.pattern, refusal.message) ∧
      (env.tokenizeOn text pattern flags).complaint? = some (.pattern, refusal.message) ∧
      ∀ replacement, (env.replaceOn text pattern replacement flags).complaint? =
        some (.pattern, refusal.message) := by
  rw [h.matches_eq, h.tokenize_eq]
  refine ⟨rfl, rfl, fun replacement => ?_⟩
  rw [h.replace_eq]
  rfl

theorem Uses.complaint (h : env.Uses text pattern flags compiled) :
    (env.matchesOn text pattern flags).complaint? = none ∧
      (env.tokenizeOn text pattern flags).complaint? = none ∧
      ∀ replacement, (env.replaceOn text pattern replacement flags).complaint? =
        (Outcome.ofPattern (compiled.template replacement)).complaint? := by
  obtain ⟨found, hmatches⟩ := h.matches_eq
  obtain ⟨tokens, htokenize⟩ := h.tokenize_eq
  rw [hmatches, htokenize]
  refine ⟨rfl, rfl, fun replacement => ?_⟩
  cases htemplate : compiled.template replacement with
  | ok template =>
    obtain ⟨result, hreplace⟩ := h.replace_eq_of_ok replacement template htemplate
    rw [hreplace]
    rfl
  | error refusal =>
    rw [h.replace_eq_of_error replacement refusal htemplate]
    rfl

/-! ### What decides -/

theorem refuses_of_compileUnder (henv : env.HoldsStandard)
    (h : compileUnder env.limits pattern (flags.getD "") = .error refusal) (text : String) :
    env.Refuses text pattern flags refusal := by
  refine refuses_of_bindPattern henv ?_
  rw [outcome_bindPattern_eq, h]
  rfl

theorem refuses_of_matchesEmptyTextIn (henv : env.HoldsStandard)
    (h : compileUnder env.limits pattern (flags.getD "") = .ok compiled)
    (hempty : compiled.matchesEmptyTextIn text = true) :
    env.Refuses text pattern flags .matchesEmptyText := by
  refine refuses_of_bindPattern henv ?_
  rw [outcome_bindPattern_eq, h, Outcome.ofPattern, Outcome.andThen, if_pos hempty]
  rfl

theorem uses_of_not_matchesEmptyTextIn (henv : env.HoldsStandard)
    (h : compileUnder env.limits pattern (flags.getD "") = .ok compiled)
    (hempty : compiled.matchesEmptyTextIn text ≠ true) :
    env.Uses text pattern flags compiled := by
  refine uses_of_bindPattern henv ?_
  rw [outcome_bindPattern_eq, h, Outcome.ofPattern, Outcome.andThen, if_neg hempty]
  rfl

/-- Every pattern is refused for a text or used on it. Without a look at the text it is refused
for what compiling it is refused for. -/
theorem refuses_or_uses (henv : env.HoldsStandard) (text pattern : String)
    (flags : Option String) :
    (∃ refusal, env.Refuses text pattern flags refusal ∧
      (compileUnder env.limits pattern (flags.getD "") = .error refusal ∨
        refusal = .matchesEmptyText)) ∨
    ∃ compiled, compileUnder env.limits pattern (flags.getD "") = .ok compiled ∧
      env.Uses text pattern flags compiled := by
  cases h : compileUnder env.limits pattern (flags.getD "") with
  | error refusal => exact .inl ⟨refusal, refuses_of_compileUnder henv h text, .inl rfl⟩
  | ok compiled =>
    by_cases hempty : compiled.matchesEmptyTextIn text = true
    · exact .inl ⟨_, refuses_of_matchesEmptyTextIn henv h hempty, .inr rfl⟩
    · exact .inr ⟨compiled, rfl, uses_of_not_matchesEmptyTextIn henv h hempty⟩

theorem refuses_of_complaint (henv : env.HoldsStandard) {complaint : FailureKind × String}
    (h : (env.matchesOn text pattern flags).complaint? = some complaint) :
    ∃ refusal, complaint = (.pattern, refusal.message) ∧
      env.Refuses text pattern flags refusal ∧
      (compileUnder env.limits pattern (flags.getD "") = .error refusal ∨
        refusal = .matchesEmptyText) := by
  obtain ⟨refusal, hrefuses, hwhy⟩ | ⟨compiled, -, huses⟩ :=
    refuses_or_uses henv text pattern flags
  · rw [hrefuses.complaint.1] at h
    exact ⟨refusal, (Option.some.inj h).symm, hrefuses, hwhy⟩
  · rw [huses.complaint.1] at h
    cases h

theorem uses_of_complaint (henv : env.HoldsStandard)
    (h : (env.matchesOn text pattern flags).complaint? = none) :
    ∃ compiled, compileUnder env.limits pattern (flags.getD "") = .ok compiled ∧
      env.Uses text pattern flags compiled := by
  refine (refuses_or_uses henv text pattern flags).resolve_left ?_
  rintro ⟨refusal, hrefuses, -⟩
  rw [hrefuses.complaint.1] at h
  cases h

/-- The three functions reject a pattern under flags alike. -/
structure RejectsAlike (env : Environment) (pattern : String) (flags : Option String) :
    Prop where
  /-- Matching and cutting are refused together, with the same kind and message. -/
  tokenize_alike : ∀ text, (env.tokenizeOn text pattern flags).complaint? =
    (env.matchesOn text pattern flags).complaint?
  /-- Then replacing is refused so too, whatever the replacement. -/
  replace_alike : ∀ text complaint,
    (env.matchesOn text pattern flags).complaint? = some complaint →
      ∀ replacement, (env.replaceOn text pattern replacement flags).complaint? = some complaint
  /-- Otherwise all three come to values, but for replacements that are no templates. -/
  uses : ∀ text, (env.matchesOn text pattern flags).complaint? = none →
    ∃ compiled, compileUnder env.limits pattern (flags.getD "") = .ok compiled ∧
      env.Uses text pattern flags compiled
  /-- Wrong flags come first, for every text. -/
  flags_first : ∀ refusal, FlagSet.parse (flags.getD "") = .error refusal →
    ∀ text, env.Refuses text pattern flags refusal
  /-- Then comes what compiling the pattern under the flags is refused for, for every text. -/
  compile_next : ∀ refusal, compileUnder env.limits pattern (flags.getD "") = .error refusal →
    ∀ text, env.Refuses text pattern flags refusal
  /-- At last the guard decides, for each text. -/
  guard_last : ∀ compiled, compileUnder env.limits pattern (flags.getD "") = .ok compiled →
    ∀ text, if compiled.matchesEmptyTextIn text then
        env.Refuses text pattern flags .matchesEmptyText
      else env.Uses text pattern flags compiled
  /-- What is refused for one text is refused for all others, unless by the guard. -/
  texts_alike : ∀ text other complaint,
    (env.matchesOn text pattern flags).complaint? = some complaint →
      (env.matchesOn other pattern flags).complaint? = some complaint ∨
        complaint = (.pattern, Refusal.matchesEmptyText.message)
  /-- Whether a replacement is a template is the same for all texts. -/
  templates_alike : ∀ text other, (env.matchesOn text pattern flags).complaint? = none →
    (env.matchesOn other pattern flags).complaint? = none →
      ∀ replacement, (env.replaceOn text pattern replacement flags).complaint? =
        (env.replaceOn other pattern replacement flags).complaint?
  /-- The guard builds its matcher as patterns are compiled. -/
  guard_rebuilds : Builder.AcceptsAlike build ∧ ∀ text,
    bindWith build env.limits pattern (flags.getD "") text =
      bindPattern env.limits pattern (flags.getD "") text
  /-- No builder that accepts the same patterns adds a reason. -/
  guard_adds_none : ∀ builder : Builder, builder.AcceptsAlike → ∀ text,
    match compileUnder env.limits pattern (flags.getD "") with
    | .error refusal => (bindWith builder env.limits pattern (flags.getD "") text).outcome =
        .failure ⟨.pattern refusal, ""⟩
    | .ok compiled => ∃ set own, FlagSet.parse (flags.getD "") = .ok set ∧
        builder set.guardModes env.limits (set.source pattern.toList) = .ok own ∧
        (bindWith builder env.limits pattern (flags.getD "") text).outcome =
          .ofPattern (if own.matchesEmptyTextIn text then .error .matchesEmptyText
            else .ok compiled)

/-- In every environment with the standard functions the three functions reject the same
patterns for the same reason. -/
theorem patterns_rejected_alike {env : Environment} (henv : env.HoldsStandard)
    (pattern : String) (flags : Option String) : env.RejectsAlike pattern flags where
  tokenize_alike text := by
    obtain ⟨refusal, h, -⟩ | ⟨compiled, -, h⟩ := refuses_or_uses henv text pattern flags <;>
      rw [h.complaint.1, h.complaint.2.1]
  replace_alike text complaint hcomplaint replacement := by
    obtain ⟨refusal, rfl, hrefuses, -⟩ := refuses_of_complaint henv hcomplaint
    exact hrefuses.complaint.2.2 replacement
  uses text hnone := uses_of_complaint henv hnone
  flags_first refusal h := refuses_of_compileUnder henv (compileUnder_of_flags_error h)
  compile_next refusal h := refuses_of_compileUnder henv h
  guard_last compiled h text := by
    split_ifs with hempty
    · exact refuses_of_matchesEmptyTextIn henv h hempty
    · exact uses_of_not_matchesEmptyTextIn henv h hempty
  texts_alike text other complaint hcomplaint := by
    obtain ⟨refusal, rfl, -, hcompile | rfl⟩ := refuses_of_complaint henv hcomplaint
    · exact .inl (refuses_of_compileUnder henv hcompile other).complaint.1
    · exact .inr rfl
  templates_alike text other htext hother replacement := by
    obtain ⟨compiled, hcompile, huses⟩ := uses_of_complaint henv htext
    obtain ⟨compiled', hcompile', huses'⟩ := uses_of_complaint henv hother
    obtain rfl : compiled = compiled' := Except.ok.inj (hcompile.symm.trans hcompile')
    rw [huses.complaint.2.2, huses'.complaint.2.2]
  guard_rebuilds := ⟨build_acceptsAlike, fun text => bindWith_build ..⟩
  guard_adds_none builder halike text := by
    cases h : compileUnder env.limits pattern (flags.getD "") with
    | error refusal => exact outcome_bindWith_of_error builder h text
    | ok compiled => exact outcome_bindWith_of_ok halike h text

/-- Beside another function and under other limits, replacing by a template for a group that is
missing: a repeated flag comes before a wrong pattern, and an empty match before the template. -/
theorem patterns_rejected_alike_first :
    let env := standard.after
      [.limits { program := 4096 }, .add ⟨"shout", .exact [.string], Library.upperCase⟩]
    env.HoldsStandard ∧
      (env.replaceOn "xa" "(" "$9" (some "ii")).complaint? =
        some (.pattern, (Refusal.flagRepeated 'i').message) ∧
      (env.replaceOn "xa" "a|" "$9" (some "s")).complaint? =
        some (.pattern, Refusal.matchesEmptyText.message) := by
  intro env
  have henv : env.HoldsStandard :=
    holdsStandard_standard.after _ <| by
      simp [standardFunctions, lastRegistered?, Change.registered?]
  have hflags : FlagSet.parse "ii" = .error (.flagRepeated 'i') := rfl
  have hrefuses := (patterns_rejected_alike henv "(" (some "ii")).flags_first _ hflags "xa"
  refine ⟨henv, hrefuses.complaint.2.2 _, ?_⟩
  have hlimits : env.limits = { program := 4096 } := rfl
  have hcheck : (compileUnder { program := 4096 } "a|" "s").toOption.any
      (·.matchesEmptyTextIn "xa") = true := by decide +kernel
  cases hcompile : compileUnder { program := 4096 } "a|" "s" with
  | error refusal => rw [hcompile] at hcheck; simp [Except.toOption] at hcheck
  | ok compiled =>
    rw [hcompile] at hcheck
    have hmatches : compiled.matchesEmptyTextIn "xa" = true := hcheck
    have hguard := (patterns_rejected_alike henv "a|" (some "s")).guard_last compiled
      (hlimits ▸ hcompile) "xa"
    rw [if_pos hmatches] at hguard
    exact hguard.complaint.2.2 _

end Environment

end QueryFunctions
