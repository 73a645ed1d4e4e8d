import QueryFunctions.Proofs.Json.Canonical
import QueryFunctions.Proofs.Environment.CheckCall

/-! How calls of the standard functions end. The main statement sorts the calls by what they
come to: each kind of failure arises exactly, or only, where its condition holds, every failure
names the function that was called, and every value is of the kind that the function yields. -/

namespace QueryFunctions

namespace Outcome

variable {α β : Type}

def FailsWith (kind : FailureKind) (outcome : Outcome α) : Prop :=
  ∃ reason, outcome = .failure reason ∧ reason.kind = kind

@[simp] theorem failsWith_failure {kind : FailureKind} {reason : Failure} :
    (failure reason : Outcome α).FailsWith kind ↔ reason.kind = kind := by
  simp [FailsWith]

@[simp] theorem failsWith_value {kind : FailureKind} {a : α} :
    ¬ (value a : Outcome α).FailsWith kind := by
  simp [FailsWith]

/-- An outcome is a value of some kind or the refusal of a pattern, for which no function is
blamed yet. -/
def OrRefused (p : α → Prop) (outcome : Outcome α) : Prop :=
  (∃ a, outcome = .value a ∧ p a) ∨ ∃ refusal, outcome = .failure ⟨.pattern refusal, ""⟩

theorem OrRefused.andThen {p : α → Prop} {q : β → Prop} {outcome : Outcome α}
    {next : α → Outcome β} (h : outcome.OrRefused p) (hnext : ∀ a, p a → (next a).OrRefused q) :
    (outcome.andThen next).OrRefused q := by
  rcases h with ⟨a, rfl, ha⟩ | ⟨refusal, rfl⟩
  · exact hnext a ha
  · exact .inr ⟨refusal, rfl⟩

theorem orRefused_ofPattern (result : Except Pattern.Refusal α) :
    (ofPattern result).OrRefused fun _ => True := by
  cases result with
  | ok a => exact .inl ⟨a, rfl, trivial⟩
  | error refusal => exact .inr ⟨refusal, rfl⟩

end Outcome

namespace Library

open Pattern

/-! ### Bodies -/

/-- The function uses a pattern, which it may refuse. -/
def UsesPattern (name : String) (args : List Argument) : Prop :=
  name = "matches" ∨ name = "replace" ∨ name = "tokenize" ∧ 2 ≤ args.length

/-- A value is of the kind that a standard function yields. -/
def Yields (name : String) (args : List Argument) (v : Json) : Prop :=
  if name = "matches" then ∃ b, v = .bool b
  else if name = "tokenize" then
    ∃ texts, v = .ofStrings texts ∧ (2 ≤ args.length → texts ≠ [])
  else if name ∈ ["add", "subtract", "multiply", "multiple", "divide"] then
    v.kind = .number ∨ v.kind = .null
  else v.kind = .string

/-- With arguments that its signature admits, a function comes to a value of its kind, or
refuses the pattern that it uses. -/
def Behaves (spec : FunctionSpec) : Prop :=
  ∀ host args, spec.signature.validate spec.name args = .ok () →
    (∃ v, (spec.body host args).outcome = .value v ∧ Yields spec.name args v) ∨
      UsesPattern spec.name args ∧
        ∃ refusal, (spec.body host args).outcome = .failure ⟨.pattern refusal, ""⟩

theorem kind_ofBinary64 (x : Binary64) :
    (Json.ofBinary64 x).kind = .number ∨ (Json.ofBinary64 x).kind = .null := by
  cases hx : x.isFinite with
  | false =>
    rw [Json.ofBinary64_of_not_isFinite hx]
    exact .inr rfl
  | true =>
    obtain ⟨n, -, -, hkept⟩ | ⟨-, hkept⟩ := Json.safe_or_float hx <;> rw [hkept] <;>
      exact .inl rfl

theorem arithmetic_yields (op : Binary64 → Binary64 → Binary64) (host : Host)
    (args : List Argument) :
    ∃ v, (arithmetic op host args).outcome = .value v ∧ (v.kind = .number ∨ v.kind = .null) := by
  unfold arithmetic
  dsimp only
  split_ifs
  · exact ⟨_, rfl, kind_ofBinary64 _⟩
  · exact ⟨.null, rfl, .inr rfl⟩

theorem bindPattern_orRefused (limits : Limits) (pattern flags text : String) :
    (bindPattern limits pattern flags text).outcome.OrRefused fun _ => True := by
  rw [outcome_bindPattern]
  exact (Outcome.orRefused_ofPattern _).andThen fun _ _ =>
    (Outcome.orRefused_ofPattern _).andThen fun _ _ => Outcome.orRefused_ofPattern _

theorem matchesBody_behaves : Behaves ⟨"matches", .ranged 2 3 .string, matchesBody⟩ := by
  intro host args _
  have hbody : (matchesBody host args).outcome.OrRefused (Yields "matches" args) := by
    rw [matchesBody, Run.outcome_bind]
    exact (bindPattern_orRefused ..).andThen fun _ _ => .inl ⟨_, rfl, _, rfl⟩
  exact hbody.imp_right fun hrefused => ⟨.inl rfl, hrefused⟩

theorem isSome_textAt? {args : List Argument} {index : Nat}
    (h : ∀ arg, args[index]? = some arg → arg.kind = .string) :
    (textAt? args index).isSome = true ↔ index < args.length := by
  cases hget : args[index]? with
  | none =>
    have hlength := List.getElem?_eq_none_iff.mp hget
    simp [textAt?, valueAt?, hlength]
  | some arg =>
    obtain ⟨hlt, -⟩ := List.getElem?_eq_some_iff.mp hget
    have hkind := h arg hget
    cases arg with
    | expression source => cases hkind
    | value v =>
      have htext : textAt? args index = some v.coerced := by
        rw [textAt?, valueAt?, hget]
        rfl
      exact iff_of_true (by rw [htext]; rfl) hlt

theorem kind_of_validate {min max : Nat} {name : String} {args : List Argument}
    (h : (Signature.ranged min max .string).validate name args = .ok ()) {index : Nat}
    {arg : Argument} (hget : args[index]? = some arg) : arg.kind = .string := by
  have htype : (Signature.ranged min max .string).typeAt? index = some .string :=
    Signature.typeAt?_single ..
  have hadmits := (Signature.validate_eq_ok_iff.mp h).2 index arg hget
  rw [Signature.admits_of_typeAt? htype] at hadmits
  simpa [ArgumentType.accepts] using hadmits

theorem tokenize_behaves : Behaves ⟨"tokenize", .ranged 1 3 .string, tokenize⟩ := by
  intro host args hvalid
  have hsome : (textAt? args 1).isSome = true ↔ 1 < args.length :=
    isSome_textAt? fun _ => kind_of_validate hvalid
  by_cases hpattern : (textAt? args 1).isSome = true
  · have hbody : (tokenize host args).outcome.OrRefused (Yields "tokenize" args) := by
      rw [tokenize, if_pos hpattern, Run.outcome_bind]
      exact (bindPattern_orRefused ..).andThen fun _ _ =>
        .inl ⟨_, rfl, _, rfl, fun _ => List.cons_ne_nil _ _⟩
    exact hbody.imp_right fun hrefused => ⟨.inr (.inr ⟨rfl, hsome.mp hpattern⟩), hrefused⟩
  · have hbody : (tokenize host args).outcome =
        .value (.ofStrings (blankTokens (textAt args 0))) := by
      rw [tokenize, if_neg hpattern]
      rfl
    exact .inl ⟨_, hbody, _, rfl, fun hlength => absurd (hsome.mpr hlength) hpattern⟩

theorem replace_behaves : Behaves ⟨"replace", .ranged 3 4 .string, replace⟩ := by
  intro host args _
  have hbody : (replace host args).outcome.OrRefused (Yields "replace" args) := by
    rw [replace, Run.outcome_bind]
    refine (bindPattern_orRefused ..).andThen fun compiled _ => ?_
    rw [Run.outcome_bind, Run.outcome_ofPattern]
    exact (Outcome.orRefused_ofPattern _).andThen fun template _ => .inl ⟨_, rfl, rfl⟩
  exact hbody.imp_right fun hrefused => ⟨.inr (.inl rfl), hrefused⟩

/-- Every standard function behaves. -/
theorem standard_behaves : ∀ spec ∈ standardFunctions, Behaves spec := by
  simp only [standardFunctions, List.forall_mem_cons]
  exact ⟨fun _ _ _ => .inl ⟨_, rfl, rfl⟩, fun _ _ _ => .inl ⟨_, rfl, rfl⟩,
    fun _ _ _ => .inl ⟨_, rfl, rfl⟩, fun _ _ _ => .inl ⟨_, rfl, rfl⟩,
    fun _ _ _ => .inl ⟨_, rfl, rfl⟩, fun _ _ _ => .inl ⟨_, rfl, rfl⟩,
    fun _ _ _ => .inl ⟨_, rfl, rfl⟩, matchesBody_behaves, tokenize_behaves, replace_behaves,
    fun host args _ => .inl (arithmetic_yields _ host args),
    fun host args _ => .inl (arithmetic_yields _ host args),
    fun host args _ => .inl (arithmetic_yields _ host args),
    fun host args _ => .inl (arithmetic_yields _ host args),
    fun host args _ => .inl (arithmetic_yields _ host args), List.forall_mem_nil _⟩

end Library

namespace Environment

open Library

variable {limits : Pattern.Limits} {name : String} {args : List Argument} {spec : FunctionSpec}

/-! ### Calls -/

/-- The ways in which a call of a standard function ends. -/
inductive Ending (name : String) (args : List Argument) : Outcome Json → Prop
  | unregistered (unknown : ∀ spec ∈ standardFunctions, spec.name ≠ name) :
    Ending name args (.failure ⟨.unknownFunction name, name⟩)
  | miscounted {spec : FunctionSpec} (standard : spec ∈ standardFunctions)
    (named : spec.name = name) (refused : spec.signature.arity.accepts args.length = false) :
    Ending name args (.failure ⟨.arity name spec.signature.arity args.length, name⟩)
  | mistyped {spec : FunctionSpec} {index : Nat} {arg : Argument} {expected : ArgumentType}
    (standard : spec ∈ standardFunctions) (named : spec.name = name)
    (counted : spec.signature.arity.accepts args.length = true) (found : args[index]? = some arg)
    (refused : spec.signature.admits index arg.kind = false) :
    Ending name args (.failure ⟨.argumentType name index expected arg.kind, name⟩)
  | refused {spec : FunctionSpec} {refusal : Pattern.Refusal}
    (standard : spec ∈ standardFunctions) (named : spec.name = name)
    (valid : spec.signature.validate name args = .ok ()) (uses : UsesPattern name args) :
    Ending name args (.failure ⟨.pattern refusal, name⟩)
  | yielded {spec : FunctionSpec} {v : Json} (standard : spec ∈ standardFunctions)
    (named : spec.name = name) (valid : spec.signature.validate name args = .ok ())
    (yields : Yields name args v) : Ending name args (.value v)

theorem resolve_standard (limits : Pattern.Limits) (hspec : spec ∈ standardFunctions) :
    (standard.withLimits limits).resolve spec.name = .ok spec :=
  holdsStandard_standard spec hspec

/-- No two standard functions have one name. -/
theorem standard_ext {other : FunctionSpec} (hspec : spec ∈ standardFunctions)
    (hother : other ∈ standardFunctions) (hname : spec.name = other.name) : spec = other := by
  have hresolve := resolve_standard {} hspec
  rw [hname, resolve_standard {} hother] at hresolve
  exact (Except.ok.inj hresolve).symm

/-- Arguments that the signature refuses are too few, too many or of a wrong type. -/
theorem ending_of_invalid {reason : Failure} (hspec : spec ∈ standardFunctions)
    (hname : spec.name = name) (h : spec.signature.validate name args = .error reason) :
    Ending name args (.failure reason) := by
  cases hcount : spec.signature.arity.accepts args.length with
  | false =>
    rw [Signature.validate_of_not_accepts hcount] at h
    obtain rfl := Except.error.inj h
    exact .miscounted hspec hname hcount
  | true =>
    rw [Signature.validate_of_accepts hcount] at h
    obtain ⟨index, arg, expected, hfound, -, htype, hrefused, rfl⟩ :=
      Signature.checkTypes_eq_error h
    rw [Nat.zero_add] at htype ⊢
    rw [← Signature.admits_of_typeAt? htype] at hrefused
    exact .mistyped hspec hname hcount hfound hrefused

theorem standard_ending (limits : Pattern.Limits) (name : String) (args : List Argument) :
    Ending name args ((standard.withLimits limits).call name args).outcome := by
  obtain ⟨depth, hdepth⟩ := exists_depth (standard.withLimits limits) name args
  rw [hdepth]
  cases hresolve : (standard.withLimits limits).resolve name with
  | error reason =>
    rw [callWithin_of_error hresolve, eq_of_resolve_eq_error hresolve]
    refine .unregistered fun spec hspec hname => ?_
    rw [← hname, resolve_standard limits hspec] at hresolve
    cases hresolve
  | ok spec =>
    have hspec : spec ∈ standardFunctions := mem_of_resolve_ofSpecs hresolve
    obtain rfl : spec.name = name := wellNamed_standard.name_eq hresolve
    rw [outcome_callWithin_of_ok hresolve]
    cases hvalid : spec.signature.validate spec.name args with
    | error reason =>
      change Ending _ _ (.failure (reason.within spec.name))
      rw [Failure.within_self (Signature.validate_error_function hvalid)]
      exact ending_of_invalid hspec rfl hvalid
    | ok _ =>
      rcases standard_behaves spec hspec _ args hvalid with
        ⟨v, hbody, hyields⟩ | ⟨huses, refusal, hbody⟩
      · change Ending _ _ ((spec.body _ args).outcome.within spec.name)
        rw [hbody]
        exact .yielded hspec rfl hvalid hyields
      · change Ending _ _ ((spec.body _ args).outcome.within spec.name)
        rw [hbody]
        exact .refused hspec rfl hvalid huses

/-! ### What an ending tells -/

/-- What some standard function with a name has, the one with this name has. -/
theorem exists_standard_iff {p : FunctionSpec → Prop} (hspec : spec ∈ standardFunctions)
    (hname : spec.name = name) :
    (∃ other ∈ standardFunctions, other.name = name ∧ p other) ↔ p spec := by
  constructor
  · rintro ⟨other, hother, hothername, hp⟩
    rwa [standard_ext hspec hother (hname.trans hothername.symm)]
  · exact fun hp => ⟨spec, hspec, hname, hp⟩

namespace Ending

variable {outcome : Outcome Json} {reason : Failure} {v : Json}

theorem name_iff (h : Ending name args outcome) :
    outcome.FailsWith .name ↔ ∀ spec ∈ standardFunctions, spec.name ≠ name := by
  cases h with
  | unregistered unknown => exact iff_of_true ⟨_, rfl, rfl⟩ unknown
  | miscounted standard named =>
    exact iff_of_false (by simp [Failure.kind, Cause.kind]) fun h => h _ standard named
  | mistyped standard named =>
    exact iff_of_false (by simp [Failure.kind, Cause.kind]) fun h => h _ standard named
  | refused standard named =>
    exact iff_of_false (by simp [Failure.kind, Cause.kind]) fun h => h _ standard named
  | yielded standard named => exact iff_of_false (by simp) fun h => h _ standard named

theorem arity_iff (h : Ending name args outcome) :
    outcome.FailsWith .arity ↔ ∃ spec ∈ standardFunctions, spec.name = name ∧
      spec.signature.arity.accepts args.length = false := by
  cases h with
  | unregistered unknown =>
    exact iff_of_false (by simp [Failure.kind, Cause.kind])
      fun ⟨spec, hspec, hname, _⟩ => unknown spec hspec hname
  | miscounted standard named refused =>
    simp [exists_standard_iff standard named, Failure.kind, Cause.kind, refused]
  | mistyped standard named counted =>
    simp [exists_standard_iff standard named, Failure.kind, Cause.kind, counted]
  | refused standard named valid =>
    simp [exists_standard_iff standard named, Failure.kind, Cause.kind,
      (Signature.validate_eq_ok_iff.mp valid).1]
  | yielded standard named valid =>
    simp [exists_standard_iff standard named, (Signature.validate_eq_ok_iff.mp valid).1]

theorem type_iff (h : Ending name args outcome) :
    outcome.FailsWith .argumentType ↔ ∃ spec ∈ standardFunctions, spec.name = name ∧
      spec.signature.arity.accepts args.length = true ∧
        ∃ index arg, args[index]? = some arg ∧ spec.signature.admits index arg.kind = false := by
  have hvalid {spec : FunctionSpec} (valid : spec.signature.validate name args = .ok ()) :
      ¬ ∃ index arg, args[index]? = some arg ∧ spec.signature.admits index arg.kind = false := by
    rintro ⟨index, arg, hfound, hrefused⟩
    rw [(Signature.validate_eq_ok_iff.mp valid).2 index arg hfound] at hrefused
    cases hrefused
  cases h with
  | unregistered unknown =>
    exact iff_of_false (by simp [Failure.kind, Cause.kind])
      fun ⟨spec, hspec, hname, _⟩ => unknown spec hspec hname
  | miscounted standard named refused =>
    simp [exists_standard_iff standard named, Failure.kind, Cause.kind, refused]
  | mistyped standard named counted found refused =>
    rw [exists_standard_iff standard named]
    exact iff_of_true ⟨_, rfl, rfl⟩ ⟨counted, _, _, found, refused⟩
  | refused standard named valid =>
    rw [exists_standard_iff standard named]
    exact iff_of_false (by simp [Failure.kind, Cause.kind]) fun h => hvalid valid h.2
  | yielded standard named valid =>
    rw [exists_standard_iff standard named]
    exact iff_of_false (by simp) fun h => hvalid valid h.2

/-- The functions that use patterns are given strings only. -/
theorem kind_of_usesPattern {index : Nat} {arg : Argument} (hspec : spec ∈ standardFunctions)
    (hname : spec.name = name) (hvalid : spec.signature.validate name args = .ok ())
    (huses : UsesPattern name args) (hget : args[index]? = some arg) : arg.kind = .string := by
  have hstrings {min max : Nat} {body : Body}
      (hmem : ⟨name, .ranged min max .string, body⟩ ∈ standardFunctions) :
      arg.kind = .string := by
    obtain rfl := standard_ext hspec hmem hname
    exact kind_of_validate hvalid hget
  rcases huses with rfl | rfl | ⟨rfl, -⟩
  · exact @hstrings 2 3 matchesBody (by simp [standardFunctions])
  · exact @hstrings 3 4 replace (by simp [standardFunctions])
  · exact @hstrings 1 3 tokenize (by simp [standardFunctions])

theorem pattern_only (h : Ending name args outcome) (hfails : outcome.FailsWith .pattern) :
    UsesPattern name args ∧ ∀ arg ∈ args, arg.kind = .string := by
  cases h with
  | unregistered | miscounted | mistyped | yielded => simp [Failure.kind, Cause.kind] at hfails
  | refused standard named valid uses =>
    refine ⟨uses, fun arg harg => ?_⟩
    obtain ⟨index, hget⟩ := List.getElem?_of_mem harg
    exact kind_of_usesPattern standard named valid uses hget

theorem succeeds (h : Ending name args outcome) (hspec : spec ∈ standardFunctions)
    (hname : spec.name = name) (hvalid : spec.signature.validate name args = .ok ())
    (huses : ¬ UsesPattern name args) : ∃ v, outcome = .value v := by
  obtain ⟨hcount, htypes⟩ := Signature.validate_eq_ok_iff.mp hvalid
  cases h with
  | unregistered unknown => exact absurd hname (unknown spec hspec)
  | miscounted standard named refused =>
    rw [standard_ext standard hspec (named.trans hname.symm), hcount] at refused
    cases refused
  | mistyped standard named counted found refused =>
    rw [standard_ext standard hspec (named.trans hname.symm), htypes _ _ found] at refused
    cases refused
  | refused standard named valid uses => exact absurd uses huses
  | yielded => exact ⟨_, rfl⟩

theorem function_eq (h : Ending name args (.failure reason)) : reason.function = name := by
  cases h <;> rfl

theorem yields (h : Ending name args (.value v)) : Yields name args v := by
  cases h
  assumption

end Ending

/-- What an outcome tells of the call of a standard function: which failures there are, which
function they name, and what values are yielded. -/
structure Classified (name : String) (args : List Argument) (outcome : Outcome Json) : Prop where
  finished : outcome ≠ .unfinished
  /-- No standard function has the name. -/
  name_iff : outcome.FailsWith .name ↔ ∀ spec ∈ standardFunctions, spec.name ≠ name
  /-- The number of arguments is out of bounds. -/
  arity_iff : outcome.FailsWith .arity ↔ ∃ spec ∈ standardFunctions, spec.name = name ∧
    spec.signature.arity.accepts args.length = false
  /-- The number of arguments is right, but some argument is not admitted at its position. -/
  type_iff : outcome.FailsWith .argumentType ↔ ∃ spec ∈ standardFunctions, spec.name = name ∧
    spec.signature.arity.accepts args.length = true ∧
      ∃ index arg, args[index]? = some arg ∧ spec.signature.admits index arg.kind = false
  /-- Patterns are refused only by functions that use them, and that are given strings only. -/
  pattern_only : outcome.FailsWith .pattern →
    UsesPattern name args ∧ ∀ arg ∈ args, arg.kind = .string
  /-- Functions without patterns succeed on all arguments that they admit. -/
  succeeds : ∀ spec ∈ standardFunctions, spec.name = name →
    spec.signature.arity.accepts args.length = true →
      (∀ index arg, args[index]? = some arg → spec.signature.admits index arg.kind = true) →
        ¬ UsesPattern name args → ∃ v, outcome = .value v
  /-- A failure names the function that was called. -/
  function_eq : ∀ reason, outcome = .failure reason → reason.function = name
  yields : ∀ v, outcome = .value v → Yields name args v

/-- The calls of the standard functions, under all limits for patterns and with all arguments,
are classified: they fail by name, number or type exactly where these are wrong, by a pattern
only where one is used, and otherwise come to a value of the kind that the function yields. -/
theorem standard_call_classified (limits : Pattern.Limits) (name : String)
    (args : List Argument) :
    Classified name args ((standard.withLimits limits).call name args).outcome := by
  have hending := standard_ending limits name args
  exact {
    finished := fun h => by
      rw [h] at hending
      cases hending
    name_iff := hending.name_iff
    arity_iff := hending.arity_iff
    type_iff := hending.type_iff
    pattern_only := hending.pattern_only
    succeeds := fun spec hspec hname hcount htypes huses =>
      hending.succeeds hspec hname (Signature.validate_eq_ok_iff.mpr ⟨hcount, htypes⟩) huses
    function_eq := fun reason h => (h ▸ hending).function_eq
    yields := fun v h => (h ▸ hending).yields }

end Environment

end QueryFunctions
