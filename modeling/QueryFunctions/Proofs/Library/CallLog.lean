import QueryFunctions.Proofs.Json.Canonical
import QueryFunctions.Proofs.Library.Endings
import QueryFunctions.Proofs.Library.Rejection
import QueryFunctions.Proofs.Pattern.Flags
import QueryFunctions.Proofs.Pattern.Templates

/-! What calls of the standard functions report. The reports of a body are told from how it goes
about its pattern or its numbers, and a call adds one report before them and, if it fails, one
behind them. So the log of a call tells how it ends. -/

namespace QueryFunctions

inductive EventKind where
  | calling
  | compiled
  | matchesEmptyText
  | notFinite
  | rejected
  deriving DecidableEq

def Event.kind : Event → EventKind
  | calling .. => .calling
  | compiled .. => .compiled
  | matchesEmptyText _ => .matchesEmptyText
  | notFinite .. => .notFinite
  | rejected .. => .rejected

def tally (kind : EventKind) (events : List Event) : Nat := (events.map Event.kind).count kind

theorem tally_cons (kind : EventKind) (event : Event) (events : List Event) :
    tally kind (event :: events) = tally kind events + if event.kind = kind then 1 else 0 := by
  rw [tally, List.map_cons, List.count_cons, tally]
  simp only [beq_iff_eq]

theorem tally_concat (kind : EventKind) (events : List Event) (event : Event) :
    tally kind (events ++ [event]) = tally kind events + if event.kind = kind then 1 else 0 := by
  rw [tally, List.map_append, List.count_append, List.map_singleton, List.count_singleton, tally]
  simp only [beq_iff_eq]

/-- There is exactly one event of a kind if a condition holds, and none otherwise. -/
structure OneIf (kind : EventKind) (events : List Event) (p : Prop) : Prop where
  one : p → tally kind events = 1
  none : ¬ p → tally kind events = 0

theorem OneIf.congr {kind : EventKind} {events more : List Event} {p q : Prop}
    (h : OneIf kind events p) (hiff : p ↔ q) (htally : tally kind more = tally kind events) :
    OneIf kind more q where
  one hq := htally.trans (h.one (hiff.mpr hq))
  none hq := htally.trans (h.none fun hp => hq (hiff.mp hp))

theorem Failure.describe_within (reason : Failure) (function : String) :
    (reason.within function).describe = reason.describe := by
  unfold within
  split <;> rfl

namespace Library

open Pattern

variable {limits : Limits} {name pattern flags text : String} {args : List Argument}
  {refusal : Refusal} {set : FlagSet} {compiled : Compiled}

/-! ### Binding patterns -/

theorem bindPattern_of_error (h : compileUnder limits pattern flags = .error refusal)
    (text : String) :
    bindPattern limits pattern flags text = ⟨[], .failure ⟨.pattern refusal, ""⟩⟩ := by
  cases hflags : FlagSet.parse flags with
  | error reason =>
    rw [compileUnder_of_flags_error hflags] at h
    obtain rfl := Except.error.inj h
    exact bindPattern_of_flags_error hflags
  | ok set =>
    rw [compileUnder_of_flags_ok hflags] at h
    exact bindPattern_of_compile_error hflags h

theorem exists_set_of_compileUnder (h : compileUnder limits pattern flags = .ok compiled) :
    ∃ set, FlagSet.parse flags = .ok set ∧ compile set limits pattern = .ok compiled := by
  cases hflags : FlagSet.parse flags with
  | error reason =>
    rw [compileUnder_of_flags_error hflags] at h
    cases h
  | ok set => exact ⟨set, rfl, (compileUnder_of_flags_ok hflags).symm.trans h⟩

/-- The guard refuses nothing before the pattern has been compiled. -/
theorem compileUnder_ne_matchesEmptyText :
    compileUnder limits pattern flags ≠ .error .matchesEmptyText := by
  intro h
  cases hflags : FlagSet.parse flags with
  | error reason =>
    rw [compileUnder_of_flags_error hflags] at h
    obtain rfl := Except.error.inj h
    obtain ⟨seen, c, rest, next, -, -, hadd⟩ := FlagSet.addAll_error hflags
    rcases next.add_cases c with ⟨-, h⟩ | ⟨-, h⟩ | ⟨-, -, more, h⟩
    all_goals
      rw [h] at hadd
      cases hadd
  | ok set =>
    rw [compileUnder_of_flags_ok hflags] at h
    unfold compile build at h
    split at h
    · cases h
    · split_ifs at h
      cases h

/-! ### What a call asks for -/

/-- The pattern and the flags that a call passes, if it passes a pattern. -/
def patternOf? (name : String) (args : List Argument) : Option (String × String) :=
  match name with
  | "matches" => some (textAt args 1, textAt args 2)
  | "tokenize" => if 2 ≤ args.length then some (textAt args 1, textAt args 2) else none
  | "replace" => some (textAt args 1, textAt args 3)
  | _ => none

def IsArithmetic (name : String) : Prop :=
  name ∈ ["add", "subtract", "multiply", "multiple", "divide"]

instance (name : String) : Decidable (IsArithmetic name) :=
  inferInstanceAs (Decidable (name ∈ _))

theorem patternOf?_of_isArithmetic (h : IsArithmetic name) (args : List Argument) :
    patternOf? name args = none := by
  simp only [IsArithmetic, List.mem_cons, List.not_mem_nil, or_false] at h
  rcases h with rfl | rfl | rfl | rfl | rfl <;> rfl

/-- The call passes a pattern that compiles under its flags. -/
def PassesPattern (limits : Limits) (name : String) (args : List Argument) (compiled : Compiled) :
    Prop :=
  ∃ pattern flags, patternOf? name args = some (pattern, flags) ∧
    compileUnder limits pattern flags = .ok compiled

theorem not_passesPattern_of_unused (h : patternOf? name args = none) :
    ¬ PassesPattern limits name args compiled := by
  rintro ⟨pattern, flags, hpassed, -⟩
  rw [h] at hpassed
  cases hpassed

/-- Only one pattern is passed, and it compiles to one thing only, or to none. -/
theorem PassesPattern.compileUnder_eq (h : PassesPattern limits name args compiled)
    (hpassed : patternOf? name args = some (pattern, flags)) :
    compileUnder limits pattern flags = .ok compiled := by
  obtain ⟨pattern', flags', hpassed', hcompile⟩ := h
  obtain ⟨rfl, rfl⟩ := Prod.mk.inj (Option.some.inj (hpassed.symm.trans hpassed'))
  exact hcompile

/-! ### Bodies -/

inductive Reported (limits : Limits) (name : String) (args : List Argument) : Run Json → Prop
  | nothing {v : Json} (unused : patternOf? name args = none)
    (kept : IsArithmetic name → v ≠ .null) : Reported limits name args ⟨[], .value v⟩
  | notFinite {x y result : Binary64} (arithmetic : IsArithmetic name) :
    Reported limits name args ⟨[.notFinite x y result], .value .null⟩
  | uncompiled {pattern flags : String} {refusal : Refusal}
    (passed : patternOf? name args = some (pattern, flags))
    (failed : compileUnder limits pattern flags = .error refusal) :
    Reported limits name args ⟨[], .failure ⟨.pattern refusal, ""⟩⟩
  | guarded {pattern flags : String} {set : FlagSet} {compiled : Compiled}
    (passed : patternOf? name args = some (pattern, flags))
    (compiles : compileUnder limits pattern flags = .ok compiled)
    (found : compiled.matchesEmptyTextIn (textAt args 0) = true) :
    Reported limits name args ⟨[.compiled pattern set, .matchesEmptyText pattern],
      .failure ⟨.pattern .matchesEmptyText, ""⟩⟩
  | bound {pattern flags : String} {set : FlagSet} {compiled : Compiled} {outcome : Outcome Json}
    (passed : patternOf? name args = some (pattern, flags))
    (compiles : compileUnder limits pattern flags = .ok compiled)
    (passes : compiled.matchesEmptyTextIn (textAt args 0) = false)
    (ends : (∃ v, outcome = .value v) ∨
      ∃ fault, outcome = .failure ⟨.pattern (.template fault), ""⟩) :
    Reported limits name args ⟨[.compiled pattern set], outcome⟩

/-- A body that goes on with its pattern, and then reports nothing. -/
theorem reported_bind {next : Compiled → Run Json}
    (hpassed : patternOf? name args = some (pattern, flags))
    (hnext : ∀ compiled, (∃ v, next compiled = pure v) ∨
      ∃ fault, next compiled = .fail ⟨.pattern (.template fault), ""⟩) :
    Reported limits name args (bindPattern limits pattern flags (textAt args 0) >>= next) := by
  cases hcompile : compileUnder limits pattern flags with
  | error refusal =>
    rw [bindPattern_of_error hcompile]
    exact .uncompiled hpassed hcompile
  | ok compiled =>
    obtain ⟨set, hflags, hset⟩ := exists_set_of_compileUnder hcompile
    rw [bindPattern_of_ok hflags hset]
    split_ifs with hfound
    · exact .guarded hpassed hcompile hfound
    · rw [Bool.not_eq_true] at hfound
      change Reported limits name args
        ⟨[.compiled pattern set] ++ (next compiled).events, (next compiled).outcome⟩
      rcases hnext compiled with ⟨v, hv⟩ | ⟨fault, hfault⟩
      · rw [hv]
        exact .bound hpassed hcompile hfound (.inl ⟨v, rfl⟩)
      · rw [hfault]
        exact .bound hpassed hcompile hfound (.inr ⟨fault, rfl⟩)

/-- With arguments that its signature admits, a function reports in one of these ways. -/
def Reports (spec : FunctionSpec) : Prop :=
  ∀ host args, spec.signature.validate spec.name args = .ok () →
    Reported host.limits spec.name args (spec.body host args)

theorem matchesBody_reports : Reports ⟨"matches", .ranged 2 3 .string, matchesBody⟩ :=
  fun _ _ _ => reported_bind rfl fun _ => .inl ⟨_, rfl⟩

theorem replace_reports : Reports ⟨"replace", .ranged 3 4 .string, replace⟩ := by
  intro host args _
  refine reported_bind rfl fun compiled => ?_
  cases htemplate : compiled.template (textAt args 2) with
  | ok template => exact .inl ⟨_, rfl⟩
  | error refusal =>
    obtain ⟨fault, rfl, -⟩ := Compiled.template_eq_error_iff.mp htemplate
    exact .inr ⟨fault, rfl⟩

theorem tokenize_reports : Reports ⟨"tokenize", .ranged 1 3 .string, tokenize⟩ := by
  intro host args hvalid
  have hsome : (textAt? args 1).isSome = true ↔ 1 < args.length :=
    isSome_textAt? fun _ => kind_of_validate hvalid
  change Reported _ _ _ (tokenize host args)
  unfold tokenize
  dsimp only
  split_ifs with hpattern
  · exact reported_bind (if_pos (hsome.mp hpattern)) fun _ => .inl ⟨_, rfl⟩
  · exact .nothing (if_neg fun hlength => hpattern (hsome.mpr hlength)) fun h =>
      absurd h (by decide)

theorem arithmetic_reports (h : IsArithmetic name) (op : Binary64 → Binary64 → Binary64)
    (host : Host) (args : List Argument) :
    Reported host.limits name args (arithmetic op host args) := by
  unfold arithmetic
  dsimp only
  split_ifs with hfinite
  · refine .nothing (patternOf?_of_isArithmetic h args) fun _ hnull => ?_
    rw [Json.ofBinary64_eq_null_iff, hfinite] at hnull
    cases hnull
  · exact .notFinite h

theorem standard_reports : ∀ spec ∈ standardFunctions, Reports spec := by
  have htext {spec : FunctionSpec} {body : Host → List Argument → Json}
      (hbody : spec.body = fun host args => pure (body host args))
      (hpattern : ∀ args, patternOf? spec.name args = none) (hname : ¬ IsArithmetic spec.name) :
      Reports spec := by
    intro host args _
    rw [hbody]
    exact .nothing (hpattern args) fun h => absurd h hname
  have harithmetic {spec : FunctionSpec} {op : Binary64 → Binary64 → Binary64}
      (hbody : spec.body = arithmetic op) (hname : IsArithmetic spec.name) : Reports spec := by
    intro host args _
    rw [hbody]
    exact arithmetic_reports hname op host args
  simp only [standardFunctions, List.forall_mem_cons]
  exact ⟨htext rfl (fun _ => rfl) (by decide), htext rfl (fun _ => rfl) (by decide),
    htext rfl (fun _ => rfl) (by decide), htext rfl (fun _ => rfl) (by decide),
    htext rfl (fun _ => rfl) (by decide), htext rfl (fun _ => rfl) (by decide),
    htext rfl (fun _ => rfl) (by decide), matchesBody_reports, tokenize_reports,
    replace_reports, harithmetic rfl (by decide), harithmetic rfl (by decide),
    harithmetic rfl (by decide), harithmetic rfl (by decide), harithmetic rfl (by decide),
    List.forall_mem_nil _⟩

namespace Reported

variable {run : Run Json} {event : Event}

theorem finished (h : Reported limits name args run) : run.outcome ≠ .unfinished := by
  cases h with
  | bound passed compiles passes ends => rcases ends with ⟨v, rfl⟩ | ⟨fault, rfl⟩ <;> nofun
  | nothing | notFinite | uncompiled | guarded => nofun

/-- Bodies report no calls and no rejections. -/
theorem tally_call (h : Reported limits name args run) :
    tally .calling run.events = 0 ∧ tally .rejected run.events = 0 := by
  cases h <;> exact ⟨rfl, rfl⟩

/-- The failure of a body is the refusal of a pattern. -/
theorem failure (h : Reported limits name args run) {reason : Failure}
    (hrun : run.outcome = .failure reason) : ∃ refusal, reason = ⟨.pattern refusal, ""⟩ := by
  cases h with
  | nothing | notFinite => cases hrun
  | uncompiled | guarded => exact ⟨_, (Outcome.failure.inj hrun).symm⟩
  | bound passed compiles passes ends =>
    rcases ends with ⟨v, rfl⟩ | ⟨fault, rfl⟩
    · cases hrun
    · exact ⟨_, (Outcome.failure.inj hrun).symm⟩

theorem tally_compiled (h : Reported limits name args run) :
    OneIf .compiled run.events (∃ compiled, PassesPattern limits name args compiled) := by
  cases h with
  | nothing unused =>
    exact ⟨fun ⟨_, h⟩ => absurd h (not_passesPattern_of_unused unused), fun _ => rfl⟩
  | notFinite arithmetic =>
    have hunused := patternOf?_of_isArithmetic arithmetic args
    exact ⟨fun ⟨_, h⟩ => absurd h (not_passesPattern_of_unused hunused), fun _ => rfl⟩
  | uncompiled passed failed =>
    refine ⟨fun ⟨_, h⟩ => ?_, fun _ => rfl⟩
    cases failed.symm.trans (h.compileUnder_eq passed)
  | guarded passed compiles | bound passed compiles =>
    exact ⟨fun _ => rfl, fun h => absurd ⟨_, _, _, passed, compiles⟩ h⟩

theorem tally_notFinite (h : Reported limits name args run) :
    OneIf .notFinite run.events (IsArithmetic name ∧ run.outcome = .value .null) := by
  have hused {passed : String × String} (hpattern : patternOf? name args = some passed) :
      ¬ IsArithmetic name := by
    intro h
    rw [patternOf?_of_isArithmetic h] at hpattern
    cases hpattern
  cases h with
  | nothing unused kept =>
    exact ⟨fun h => absurd (Outcome.value.inj h.2) (kept h.1), fun _ => rfl⟩
  | notFinite arithmetic => exact ⟨fun _ => rfl, fun h => absurd ⟨arithmetic, rfl⟩ h⟩
  | uncompiled passed | guarded passed | bound passed =>
    exact ⟨fun h => absurd h.1 (hused passed), fun _ => rfl⟩

/-- The guard is reported exactly where it refuses the pattern. -/
theorem tally_matchesEmptyText (h : Reported limits name args run) :
    OneIf .matchesEmptyText run.events
      (run.outcome = .failure ⟨.pattern .matchesEmptyText, ""⟩) := by
  cases h with
  | nothing | notFinite => exact ⟨nofun, fun _ => rfl⟩
  | uncompiled passed failed =>
    refine ⟨fun h => ?_, fun _ => rfl⟩
    cases h
    exact absurd failed compileUnder_ne_matchesEmptyText
  | guarded => exact ⟨fun _ => rfl, fun h => absurd rfl h⟩
  | bound passed compiles passes ends =>
    refine ⟨fun h => ?_, fun _ => rfl⟩
    rcases ends with ⟨v, rfl⟩ | ⟨fault, rfl⟩ <;> cases h

theorem guarded_iff (h : Reported limits name args run) :
    run.outcome = .failure ⟨.pattern .matchesEmptyText, ""⟩ ↔
      ∃ compiled, PassesPattern limits name args compiled ∧
        compiled.matchesEmptyTextIn (textAt args 0) = true := by
  constructor
  · intro hrun
    cases h with
    | nothing | notFinite => cases hrun
    | uncompiled passed failed =>
      cases hrun
      exact absurd failed compileUnder_ne_matchesEmptyText
    | guarded passed compiles found => exact ⟨_, ⟨_, _, passed, compiles⟩, found⟩
    | bound passed compiles passes ends =>
      rcases ends with ⟨v, rfl⟩ | ⟨fault, rfl⟩ <;> cases hrun
  · rintro ⟨compiled, hpattern, hfound⟩
    cases h with
    | nothing unused => exact absurd hpattern (not_passesPattern_of_unused unused)
    | notFinite arithmetic =>
      have hunused := patternOf?_of_isArithmetic arithmetic args
      exact absurd hpattern (not_passesPattern_of_unused hunused)
    | uncompiled passed failed => cases failed.symm.trans (hpattern.compileUnder_eq passed)
    | guarded => rfl
    | bound passed compiles passes =>
      obtain rfl := Except.ok.inj (compiles.symm.trans (hpattern.compileUnder_eq passed))
      rw [hfound] at passes
      cases passes

/-- The guard is reported right behind the pattern that it refuses. -/
theorem events_of_guard (h : Reported limits name args run) {refused : String}
    (hmem : .matchesEmptyText refused ∈ run.events) :
    ∃ set, run.events = [.compiled refused set, .matchesEmptyText refused] := by
  cases h with
  | nothing | uncompiled => cases hmem
  | notFinite | bound => cases List.mem_singleton.mp hmem
  | guarded =>
    simp only [List.mem_cons, List.not_mem_nil, or_false, reduceCtorEq, false_or,
      Event.matchesEmptyText.injEq] at hmem
    obtain rfl := hmem
    exact ⟨_, rfl⟩

end Reported

end Library

namespace Environment

open Library

variable {limits : Pattern.Limits} {name : String} {args : List Argument} {run : Run Json}

/-! ### Calls -/

/-- The arguments of a call meet the signature of the standard function with the name. -/
def Meets (name : String) (args : List Argument) : Prop :=
  ∃ spec ∈ standardFunctions, spec.name = name ∧ spec.signature.validate name args = .ok ()

inductive CallReported (limits : Pattern.Limits) (name : String) (args : List Argument) :
    Run Json → Prop
  | unknown (unregistered : ∀ spec ∈ standardFunctions, spec.name ≠ name) :
    CallReported limits name args
      ⟨[.calling name args.length], .failure ⟨.unknownFunction name, name⟩⟩
  | invalid {spec : FunctionSpec} {reason : Failure} (standard : spec ∈ standardFunctions)
    (named : spec.name = name) (error : spec.signature.validate name args = .error reason) :
    CallReported limits name args
      ⟨[.calling name args.length, .rejected name reason], .failure reason⟩
  | failed {body : Run Json} {reason : Failure} (meets : Meets name args)
    (reported : Reported limits name args body) (fails : body.outcome = .failure reason) :
    CallReported limits name args
      ⟨.calling name args.length :: (body.events ++ [.rejected name reason]),
        .failure (reason.within name)⟩
  | yielded {body : Run Json} {v : Json} (meets : Meets name args)
    (reported : Reported limits name args body) (yields : body.outcome = .value v) :
    CallReported limits name args ⟨.calling name args.length :: body.events, .value v⟩

/-- A call reports itself, then what the body reports, and its rejection if the body fails. -/
theorem callReported_of_body {spec : FunctionSpec} {body : Run Json}
    (hmeets : Meets spec.name args) (hbody : Reported limits spec.name args body) :
    CallReported limits spec.name args (do
      Run.report (.calling spec.name args.length)
      spec.blame body) := by
  obtain ⟨events, outcome⟩ := body
  cases outcome with
  | unfinished => exact absurd rfl hbody.finished
  | failure reason => exact .failed hmeets hbody rfl
  | value v => exact .yielded hmeets hbody rfl

theorem standard_call_reported (limits : Pattern.Limits) (name : String) (args : List Argument) :
    CallReported limits name args ((standard.withLimits limits).call name args) := by
  obtain ⟨depth, hdepth⟩ := exists_depth (standard.withLimits limits) name args
  rw [hdepth]
  cases hresolve : (standard.withLimits limits).resolve name with
  | error reason =>
    rw [callWithin_of_error hresolve, eq_of_resolve_eq_error hresolve]
    refine .unknown fun spec hspec hname => ?_
    rw [← hname, resolve_standard limits hspec] at hresolve
    cases hresolve
  | ok spec =>
    have hspec : spec ∈ standardFunctions := mem_of_resolve_ofSpecs hresolve
    obtain rfl : spec.name = name := wellNamed_standard.name_eq hresolve
    rw [callWithin_of_ok hresolve, FunctionSpec.call]
    cases hvalid : spec.signature.validate spec.name args with
    | error reason =>
      have hwithin : reason.within spec.name = reason :=
        Failure.within_self (Signature.validate_error_function hvalid)
      change CallReported _ _ _ ⟨[.calling _ _] ++ [.rejected _ reason],
        .failure (reason.within spec.name)⟩
      rw [hwithin]
      exact .invalid hspec rfl hvalid
    | ok _ => exact callReported_of_body ⟨spec, hspec, rfl, hvalid⟩ (standard_reports spec hspec
        ((standard.withLimits limits).hostWithin depth) args hvalid)

/-! ### What the log tells -/

theorem not_meets_of_unregistered (h : ∀ spec ∈ standardFunctions, spec.name ≠ name) :
    ¬ Meets name args :=
  fun ⟨spec, hspec, hname, _⟩ => h spec hspec hname

theorem not_meets_of_error {spec : FunctionSpec} {reason : Failure}
    (hspec : spec ∈ standardFunctions) (hname : spec.name = name)
    (h : spec.signature.validate name args = .error reason) : ¬ Meets name args := by
  rintro ⟨other, hother, hothername, hvalid⟩
  rw [← standard_ext hspec hother (hname.trans hothername.symm), h] at hvalid
  cases hvalid

theorem validate_error_ne_pattern {signature : Signature} {reason : Failure}
    {refusal : Pattern.Refusal} (h : signature.validate name args = .error reason) :
    reason ≠ ⟨.pattern refusal, name⟩ := by
  rintro rfl
  cases hcount : signature.arity.accepts args.length with
  | false =>
    rw [Signature.validate_of_not_accepts hcount] at h
    cases h
  | true =>
    rw [Signature.validate_of_accepts hcount] at h
    cases Signature.checkTypes_error h

namespace CallReported

theorem finished (h : CallReported limits name args run) : run.outcome ≠ .unfinished := by
  cases h <;> nofun

theorem begins (h : CallReported limits name args run) :
    ∃ later, run.events = .calling name args.length :: later ∧ tally .calling later = 0 := by
  cases h with
  | unknown | invalid => exact ⟨_, rfl, rfl⟩
  | failed meets reported =>
    refine ⟨_, rfl, ?_⟩
    rw [tally_concat, reported.tally_call.1]
    rfl
  | yielded meets reported => exact ⟨_, rfl, reported.tally_call.1⟩

theorem unknown_only (h : CallReported limits name args run)
    (hname : ∀ spec ∈ standardFunctions, spec.name ≠ name) :
    run.events = [.calling name args.length] := by
  cases h with
  | unknown => rfl
  | invalid standard named => exact absurd named (hname _ standard)
  | failed meets | yielded meets => exact absurd meets (not_meets_of_unregistered hname)

theorem rejected (h : CallReported limits name args run)
    (hname : ∃ spec ∈ standardFunctions, spec.name = name) :
    OneIf .rejected run.events (∃ reason, run.outcome = .failure reason) := by
  cases h with
  | unknown unregistered =>
    obtain ⟨spec, hspec, hname⟩ := hname
    exact absurd hname (unregistered spec hspec)
  | invalid => exact ⟨fun _ => rfl, fun h => absurd ⟨_, rfl⟩ h⟩
  | failed meets reported =>
    refine ⟨fun _ => ?_, fun h => absurd ⟨_, rfl⟩ h⟩
    rw [tally_cons, tally_concat, reported.tally_call.2]
    rfl
  | yielded meets reported =>
    refine ⟨nofun, fun _ => ?_⟩
    rw [tally_cons, reported.tally_call.2]
    rfl

theorem line_rejected (name : String) (reason : Failure) :
    (Event.rejected name reason).line =
      "DEBUG jmespath_contrib::function: call to " ++ name ++ "() rejected: " ++
        reason.describe := rfl

theorem rejected_last (h : CallReported limits name args run)
    (hname : ∃ spec ∈ standardFunctions, spec.name = name) {reason : Failure}
    (hrun : run.outcome = .failure reason) :
    ∃ earlier last, run.events = earlier ++ [last] ∧ last.kind = .rejected ∧
      last.line = "DEBUG jmespath_contrib::function: call to " ++ name ++ "() rejected: " ++
        reason.describe := by
  cases h with
  | unknown unregistered =>
    obtain ⟨spec, hspec, hname⟩ := hname
    exact absurd hname (unregistered spec hspec)
  | invalid =>
    obtain rfl := Outcome.failure.inj hrun
    exact ⟨[_], _, rfl, rfl, rfl⟩
  | failed meets reported =>
    obtain rfl := Outcome.failure.inj hrun
    refine ⟨_ :: _, _, rfl, rfl, ?_⟩
    rw [Failure.describe_within, line_rejected]
  | yielded => cases hrun

/-- The call carries on what a body reports and how it ends. -/
structure Carries (name : String) (run body : Run Json) : Prop where
  tally_eq {kind : EventKind} (hcalling : kind ≠ .calling) (hrejected : kind ≠ .rejected) :
    tally kind run.events = tally kind body.events
  mem_of_mem {event : Event} (hcalling : event.kind ≠ .calling) (hrejected : event.kind ≠ .rejected)
    (h : event ∈ run.events) : event ∈ body.events
  events_infix : body.events <:+: run.events
  value_iff {v : Json} : run.outcome = .value v ↔ body.outcome = .value v
  refused_iff {refusal : Pattern.Refusal} :
    run.outcome = .failure ⟨.pattern refusal, name⟩ ↔ body.outcome = .failure ⟨.pattern refusal, ""⟩

/-- The call comes to an end before its body. -/
structure EndsEarly (name : String) (run : Run Json) : Prop where
  mem_kind {event : Event} (h : event ∈ run.events) :
    event.kind = .calling ∨ event.kind = .rejected
  ne_value {v : Json} : run.outcome ≠ .value v
  ne_refused {refusal : Pattern.Refusal} : run.outcome ≠ .failure ⟨.pattern refusal, name⟩

theorem EndsEarly.tally_eq_zero (h : EndsEarly name run) {kind : EventKind}
    (hcalling : kind ≠ .calling) (hrejected : kind ≠ .rejected) : tally kind run.events = 0 := by
  refine List.count_eq_zero.mpr fun hmem => ?_
  obtain ⟨event, hevent, rfl⟩ := List.mem_map.mp hmem
  exact (h.mem_kind hevent).elim hcalling hrejected

/-- Arguments that do not meet the signature keep a call from its body. -/
theorem endsEarly_or_carries (h : CallReported limits name args run) :
    (¬ Meets name args ∧ EndsEarly name run) ∨
      (Meets name args ∧ ∃ body, Reported limits name args body ∧ Carries name run body) := by
  cases h with
  | unknown unregistered =>
    refine .inl ⟨not_meets_of_unregistered unregistered, ⟨fun h => .inl ?_, nofun, nofun⟩⟩
    rw [List.mem_singleton.mp h, Event.kind]
  | invalid standard named error =>
    refine .inl ⟨not_meets_of_error standard named error, ⟨fun h => ?_, nofun, fun h => ?_⟩⟩
    · simp only [List.mem_cons, List.not_mem_nil, or_false] at h
      exact h.imp (congrArg Event.kind) (congrArg Event.kind)
    · exact validate_error_ne_pattern error (Outcome.failure.inj h)
  | @failed body reason meets reported fails =>
    obtain ⟨refusal, rfl⟩ := reported.failure fails
    refine .inr ⟨meets, body, reported, fun hcalling hrejected => ?_,
      fun hcalling hrejected h => ?_, ⟨[.calling name args.length], [.rejected name _], rfl⟩,
      ?_, ?_⟩
    · rw [tally_cons, Event.kind, if_neg hcalling.symm, tally_concat, Event.kind,
        if_neg hrejected.symm, Nat.add_zero]
    · rcases List.mem_cons.mp h with rfl | h
      · exact absurd rfl hcalling
      · rcases List.mem_append.mp h with h | h
        · exact h
        · rw [List.mem_singleton.mp h] at hrejected
          exact absurd rfl hrejected
    · rw [fails]
      exact ⟨nofun, nofun⟩
    · rw [fails]
      simp [Failure.within]
  | @yielded body v meets reported yields =>
    refine .inr ⟨meets, body, reported, fun hcalling _ => ?_, fun hcalling _ h => ?_,
      ⟨[.calling name args.length], [], List.append_nil _⟩, ?_, ?_⟩
    · rw [tally_cons, Event.kind, if_neg hcalling.symm, Nat.add_zero]
    · rcases List.mem_cons.mp h with rfl | h
      · exact absurd rfl hcalling
      · exact h
    · rw [yields]
    · rw [yields]
      exact ⟨nofun, nofun⟩

theorem compiled (h : CallReported limits name args run) :
    OneIf .compiled run.events
      (Meets name args ∧ ∃ compiled, PassesPattern limits name args compiled) := by
  rcases h.endsEarly_or_carries with ⟨hunmet, hearly⟩ | ⟨hmeets, body, hbody, hcarries⟩
  · exact ⟨fun h => absurd h.1 hunmet, fun _ => hearly.tally_eq_zero nofun nofun⟩
  · exact hbody.tally_compiled.congr (and_iff_right hmeets).symm (hcarries.tally_eq nofun nofun)

theorem guarded (h : CallReported limits name args run) :
    OneIf .matchesEmptyText run.events
      (run.outcome = .failure ⟨.pattern .matchesEmptyText, name⟩) := by
  rcases h.endsEarly_or_carries with ⟨-, hearly⟩ | ⟨-, body, hbody, hcarries⟩
  · exact ⟨fun h => absurd h hearly.ne_refused, fun _ => hearly.tally_eq_zero nofun nofun⟩
  · exact hbody.tally_matchesEmptyText.congr hcarries.refused_iff.symm
      (hcarries.tally_eq nofun nofun)

theorem guarded_iff (h : CallReported limits name args run) :
    run.outcome = .failure ⟨.pattern .matchesEmptyText, name⟩ ↔
      Meets name args ∧ ∃ compiled, PassesPattern limits name args compiled ∧
        compiled.matchesEmptyTextIn (textAt args 0) = true := by
  rcases h.endsEarly_or_carries with ⟨hunmet, hearly⟩ | ⟨hmeets, body, hbody, hcarries⟩
  · exact ⟨fun h => absurd h hearly.ne_refused, fun h => absurd h.1 hunmet⟩
  · rw [hcarries.refused_iff, hbody.guarded_iff, and_iff_right hmeets]

theorem guarded_after (h : CallReported limits name args run) {pattern : String}
    (hmem : .matchesEmptyText pattern ∈ run.events) :
    ∃ flags, [.compiled pattern flags, .matchesEmptyText pattern] <:+: run.events := by
  rcases h.endsEarly_or_carries with ⟨-, hearly⟩ | ⟨-, body, hbody, hcarries⟩
  · exact absurd (hearly.mem_kind hmem) (by simp [Event.kind])
  · obtain ⟨flags, hevents⟩ := hbody.events_of_guard (hcarries.mem_of_mem nofun nofun hmem)
    exact ⟨flags, hevents ▸ hcarries.events_infix⟩

theorem notFinite (h : CallReported limits name args run) :
    OneIf .notFinite run.events (IsArithmetic name ∧ run.outcome = .value .null) := by
  rcases h.endsEarly_or_carries with ⟨-, hearly⟩ | ⟨-, body, hbody, hcarries⟩
  · exact ⟨fun h => absurd h.2 hearly.ne_value, fun _ => hearly.tally_eq_zero nofun nofun⟩
  · exact hbody.tally_notFinite.congr (and_congr_right' hcarries.value_iff.symm)
      (hcarries.tally_eq nofun nofun)

end CallReported

/-- The reports of a call tell how it ends. -/
structure LogTells (limits : Pattern.Limits) (name : String) (args : List Argument)
    (run : Run Json) : Prop where
  finished : run.outcome ≠ .unfinished
  begins : ∃ later, run.events = .calling name args.length :: later ∧ tally .calling later = 0
  unknown : (∀ spec ∈ standardFunctions, spec.name ≠ name) →
    run.events = [.calling name args.length]
  rejected : (∃ spec ∈ standardFunctions, spec.name = name) →
    OneIf .rejected run.events (∃ reason, run.outcome = .failure reason)
  rejected_last : (∃ spec ∈ standardFunctions, spec.name = name) →
    ∀ reason, run.outcome = .failure reason →
      ∃ earlier last, run.events = earlier ++ [last] ∧ last.kind = .rejected ∧
        last.line = "DEBUG jmespath_contrib::function: call to " ++ name ++ "() rejected: " ++
          reason.describe
  compiled : OneIf .compiled run.events
    (Meets name args ∧ ∃ compiled, PassesPattern limits name args compiled)
  guarded : OneIf .matchesEmptyText run.events
    (run.outcome = .failure ⟨.pattern .matchesEmptyText, name⟩)
  guarded_iff : run.outcome = .failure ⟨.pattern .matchesEmptyText, name⟩ ↔
    Meets name args ∧ ∃ compiled, PassesPattern limits name args compiled ∧
      compiled.matchesEmptyTextIn (textAt args 0) = true
  guarded_after : ∀ pattern, .matchesEmptyText pattern ∈ run.events →
    ∃ flags, [.compiled pattern flags, .matchesEmptyText pattern] <:+: run.events
  notFinite : OneIf .notFinite run.events (IsArithmetic name ∧ run.outcome = .value .null)

/-- The reports of every call on the standard functions, under any limits, tell how it ends. -/
theorem standard_log_tells (limits : Pattern.Limits) (name : String) (args : List Argument) :
    LogTells limits name args ((standard.withLimits limits).call name args) := by
  have h := standard_call_reported limits name args
  exact
    { finished := h.finished
      begins := h.begins
      unknown := h.unknown_only
      rejected := h.rejected
      rejected_last := fun hname _ hrun => h.rejected_last hname hrun
      compiled := h.compiled
      guarded := h.guarded
      guarded_iff := h.guarded_iff
      guarded_after := fun _ hmem => h.guarded_after hmem
      notFinite := h.notFinite }

end Environment

end QueryFunctions
