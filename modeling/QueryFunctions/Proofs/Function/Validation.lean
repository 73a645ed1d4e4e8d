import QueryFunctions.Function.Spec

/-! Arguments against a signature. The check of types passes if every position admits its
argument, and otherwise tells of the first position that does not. The main statement is the
verdict of the whole check, which looks at the number of arguments first. -/

namespace QueryFunctions.Signature

variable {signature : Signature} {function : String} {index : Nat} {arg : Argument}
  {args : List Argument} {expected : ArgumentType} {reason : Failure}

theorem admits_of_typeAt? (h : signature.typeAt? index = some expected) (kind : Kind) :
    signature.admits index kind = expected.accepts kind := by
  rw [admits, h]
  rfl

theorem typeAt?_single (type : ArgumentType) (arity : Arity) (index : Nat) :
    (⟨[type], arity⟩ : Signature).typeAt? index = some type := by
  cases index <;> rfl

/-! ### Types -/

theorem checkTypes_cons (signature : Signature) (function : String) (index : Nat)
    (arg : Argument) (args : List Argument) :
    signature.checkTypes function index (arg :: args) =
      match signature.typeAt? index with
      | none => signature.checkTypes function (index + 1) args
      | some expected =>
        if expected.accepts arg.kind then signature.checkTypes function (index + 1) args
        else .error ⟨.argumentType function index expected arg.kind, function⟩ :=
  rfl

theorem checkTypes_cons_of_admits (h : signature.admits index arg.kind = true) :
    signature.checkTypes function index (arg :: args) =
      signature.checkTypes function (index + 1) args := by
  rw [checkTypes_cons]
  split
  next => rfl
  next expected htype =>
    rw [admits_of_typeAt? htype] at h
    exact if_pos h

theorem checkTypes_cons_of_not_admits (h : signature.admits index arg.kind = false)
    (function : String) (args : List Argument) :
    ∃ expected, signature.typeAt? index = some expected ∧
      signature.checkTypes function index (arg :: args) =
        .error ⟨.argumentType function index expected arg.kind, function⟩ := by
  rw [checkTypes_cons]
  cases htype : signature.typeAt? index with
  | none => simp [admits, htype] at h
  | some expected =>
    rw [admits_of_typeAt? htype] at h
    exact ⟨expected, rfl, if_neg (by simp [h])⟩

theorem checkTypes_eq_ok_iff :
    signature.checkTypes function index args = .ok () ↔
      ∀ i arg, args[i]? = some arg → signature.admits (index + i) arg.kind = true := by
  induction args generalizing index with
  | nil => simp [checkTypes]
  | cons arg args ih =>
    cases hadmits : signature.admits index arg.kind with
    | true =>
      rw [checkTypes_cons_of_admits hadmits, ih]
      constructor
      · intro h i arg' hi
        cases i with
        | zero =>
          obtain rfl := Option.some.inj hi
          exact hadmits
        | succ i =>
          rw [Nat.add_comm i, ← Nat.add_assoc]
          exact h i arg' hi
      · intro h i arg' hi
        rw [Nat.add_assoc, Nat.add_comm 1]
        exact h (i + 1) arg' hi
    | false =>
      obtain ⟨expected, -, herror⟩ := checkTypes_cons_of_not_admits hadmits function args
      rw [herror]
      refine iff_of_false (by simp) fun h => ?_
      have hzero := h 0 arg rfl
      rw [Nat.add_zero, hadmits] at hzero
      cases hzero

theorem checkTypes_eq_error (h : signature.checkTypes function index args = .error reason) :
    ∃ i arg expected, args[i]? = some arg ∧
      (∀ j earlier, j < i → args[j]? = some earlier →
        signature.admits (index + j) earlier.kind = true) ∧
      signature.typeAt? (index + i) = some expected ∧ expected.accepts arg.kind = false ∧
      reason = ⟨.argumentType function (index + i) expected arg.kind, function⟩ := by
  induction args generalizing index with
  | nil => cases h
  | cons arg args ih =>
    cases hadmits : signature.admits index arg.kind with
    | false =>
      obtain ⟨expected, htype, herror⟩ := checkTypes_cons_of_not_admits hadmits function args
      obtain rfl := Except.error.inj (herror.symm.trans h)
      rw [admits_of_typeAt? htype] at hadmits
      exact ⟨0, arg, expected, rfl, fun j _ hj => absurd hj (Nat.not_lt_zero j), htype, hadmits,
        rfl⟩
    | true =>
      rw [checkTypes_cons_of_admits hadmits] at h
      obtain ⟨i, found, expected, hfound, hearlier, htype, haccepts, hreason⟩ := ih h
      rw [Nat.add_assoc, Nat.add_comm 1] at htype hreason
      refine ⟨i + 1, found, expected, hfound, fun j earlier hj hget => ?_, htype, haccepts,
        hreason⟩
      cases j with
      | zero =>
        obtain rfl := Option.some.inj hget
        exact hadmits
      | succ j =>
        rw [Nat.add_comm j, ← Nat.add_assoc]
        exact hearlier j earlier (Nat.lt_of_succ_lt_succ hj) hget

/-! ### Validation -/

theorem validate_of_not_accepts (h : signature.arity.accepts args.length = false) :
    signature.validate function args =
      .error ⟨.arity function signature.arity args.length, function⟩ := by
  simp [validate, checkArity, h, bind, Except.bind]

theorem validate_of_accepts (h : signature.arity.accepts args.length = true) :
    signature.validate function args = signature.checkTypes function 0 args := by
  simp [validate, checkArity, h, bind, Except.bind]

theorem validate_eq_ok_iff :
    signature.validate function args = .ok () ↔
      signature.arity.accepts args.length = true ∧
        ∀ i arg, args[i]? = some arg → signature.admits i arg.kind = true := by
  cases haccepts : signature.arity.accepts args.length with
  | false => simp [validate_of_not_accepts haccepts]
  | true => simp [validate_of_accepts haccepts, checkTypes_eq_ok_iff]

theorem validate_error_function (h : signature.validate function args = .error reason) :
    reason.function = function := by
  cases haccepts : signature.arity.accepts args.length with
  | false =>
    obtain rfl := Except.error.inj ((validate_of_not_accepts haccepts).symm.trans h)
    rfl
  | true =>
    rw [validate_of_accepts haccepts] at h
    obtain ⟨i, arg, expected, -, -, -, -, rfl⟩ := checkTypes_eq_error h
    rfl

end QueryFunctions.Signature

namespace QueryFunctions

/-! ### The verdict -/

/-- A number of arguments is out of the bounds: below the lower one, or above the upper one
if there is one. -/
def Arity.Excludes (arity : Arity) (count : Nat) : Prop :=
  count < arity.min ∨ ∃ max, arity.max = some max ∧ max < count

theorem Arity.accepts_eq_false_iff {arity : Arity} {count : Nat} :
    arity.accepts count = false ↔ arity.Excludes count := by
  obtain ⟨min, max⟩ := arity
  cases max with
  | none => simp [accepts, Excludes]
  | some max =>
    simp only [accepts, Excludes, Option.all_some, Bool.and_eq_false_iff, decide_eq_false_iff_not,
      Nat.not_le, Option.some.injEq, exists_eq_left']

namespace Signature

/-- A position asks for a type: for the one that is declared for it or, after all the declared
ones, for the last of them. -/
inductive Demands (signature : Signature) (index : Nat) (type : ArgumentType) : Prop
  | declared (here : signature.types[index]? = some type)
  | repeated (past : signature.types.length ≤ index) (last : signature.types.getLast? = some type)

/-- Every argument is accepted by the type that its position asks for, if it asks for one. -/
def Takes (signature : Signature) (args : List Argument) : Prop :=
  ∀ index arg type, args[index]? = some arg → signature.Demands index type →
    type.accepts arg.kind = true

/-- The first argument that the type at its position does not accept. -/
structure FirstRejected (signature : Signature) (args : List Argument) (index : Nat)
    (arg : Argument) (expected : ArgumentType) : Prop where
  here : args[index]? = some arg
  demanded : signature.Demands index expected
  rejected : expected.accepts arg.kind = false
  first : signature.Takes (args.take index)

variable {signature : Signature} {function : String} {index : Nat} {type : ArgumentType}
  {args : List Argument}

theorem typeAt?_eq_some_iff :
    signature.typeAt? index = some type ↔ signature.Demands index type := by
  unfold typeAt?
  cases hget : signature.types[index]? with
  | some declared =>
    constructor
    · intro h
      exact .declared (hget.trans h)
    · rintro (here | ⟨past, -⟩)
      · exact hget.symm.trans here
      · rw [List.getElem?_eq_none past] at hget
        cases hget
  | none =>
    constructor
    · exact .repeated (List.getElem?_eq_none_iff.mp hget)
    · rintro (here | ⟨-, last⟩)
      · rw [hget] at here
        cases here
      · exact last

theorem admits_iff {kind : Kind} :
    signature.admits index kind = true ↔
      ∀ type, signature.Demands index type → type.accepts kind = true := by
  simp only [admits, Option.all_eq_true, typeAt?_eq_some_iff]

theorem takes_iff : signature.Takes args ↔
    ∀ i arg, args[i]? = some arg → signature.admits i arg.kind = true := by
  simp only [admits_iff]
  exact ⟨fun h i arg hget type => h i arg type hget, fun h i arg type hget => h i arg hget type⟩

theorem not_accepts_expression (type : ArgumentType) :
    type.accepts .expression = false := by
  cases type <;> rfl

/-- The types are looked at from left to right, and the first argument that is not accepted is
what the check fails for. -/
theorem exists_firstRejected (h : ¬ signature.Takes args) (function : String) :
    ∃ index arg expected, signature.FirstRejected args index arg expected ∧
      signature.checkTypes function 0 args =
        .error ⟨.argumentType function index expected arg.kind, function⟩ := by
  cases hcheck : signature.checkTypes function 0 args with
  | ok =>
    have hall := checkTypes_eq_ok_iff.mp hcheck
    simp only [Nat.zero_add] at hall
    exact absurd (takes_iff.mpr hall) h
  | error reason =>
    obtain ⟨i, arg, expected, hget, hearlier, htype, haccepts, rfl⟩ := checkTypes_eq_error hcheck
    simp only [Nat.zero_add] at hearlier htype ⊢
    refine ⟨i, arg, expected, ⟨hget, typeAt?_eq_some_iff.mp htype, haccepts, ?_⟩, rfl⟩
    refine takes_iff.mpr fun j earlier hj => ?_
    rw [List.getElem?_take] at hj
    obtain ⟨hlt, hget⟩ := Option.ite_none_right_eq_some.mp hj
    exact hearlier j earlier hlt hget

theorem FirstRejected.not_takes {arg : Argument} {expected : ArgumentType}
    (h : signature.FirstRejected args index arg expected) : ¬ signature.Takes args := by
  intro htakes
  have haccepts := htakes index arg expected h.here h.demanded
  rw [h.rejected] at haccepts
  cases haccepts

/-- The number of arguments alone decides whether the check of the number fails. -/
theorem checkArity_eq_error_iff {count : Nat} {reason : Failure} :
    signature.checkArity function count = .error reason ↔
      signature.arity.Excludes count ∧
        reason = ⟨.arity function signature.arity count, function⟩ := by
  rw [← Arity.accepts_eq_false_iff, checkArity]
  cases signature.arity.accepts count <;> simp [eq_comm]

theorem validate_of_excludes (h : signature.arity.Excludes args.length) (function : String) :
    signature.validate function args =
      .error ⟨.arity function signature.arity args.length, function⟩ :=
  validate_of_not_accepts (Arity.accepts_eq_false_iff.mpr h)

theorem validate_of_not_excludes (h : ¬ signature.arity.Excludes args.length)
    (function : String) :
    signature.validate function args = signature.checkTypes function 0 args := by
  rw [← Arity.accepts_eq_false_iff, Bool.not_eq_false] at h
  exact validate_of_accepts h

/-- The check of a call, for every signature and all arguments. It fails as the check of the
number alone does exactly if the number is out of the bounds, whatever the arguments are. Within
them it passes exactly if every argument is accepted where it stands, and otherwise it fails for
the first one that is not, with the position counted from one, the type asked for there and the
kind of the argument. An expression never passes where a type is asked for. -/
theorem validate_verdict (signature : Signature) (function : String) (args : List Argument) :
    ((∃ reason, signature.checkArity function args.length = .error reason ∧
        signature.validate function args = .error reason ∧ reason.kind = .arity) ↔
      signature.arity.Excludes args.length) ∧
    (signature.validate function args = .ok () ↔
      ¬ signature.arity.Excludes args.length ∧ signature.Takes args) ∧
    ((∃ index arg expected, signature.FirstRejected args index arg expected ∧
        ∃ reason, signature.validate function args = .error reason ∧
          reason.kind = .argumentType ∧ reason.function = function ∧
          reason.message = "invalid argument type calling \"" ++ function ++ "\": argument " ++
            toString (index + 1) ++ " expected " ++ expected.describe ++ " but was " ++
            arg.kind.name) ↔
      ¬ signature.arity.Excludes args.length ∧ ¬ signature.Takes args) ∧
    ∀ index source type, args[index]? = some (.expression source) →
      signature.Demands index type → type.accepts .expression = false ∧
        ∃ reason, signature.validate function args = .error reason := by
  have hok : signature.validate function args = .ok () ↔
      ¬ signature.arity.Excludes args.length ∧ signature.Takes args := by
    rw [validate_eq_ok_iff, takes_iff, ← Arity.accepts_eq_false_iff, Bool.not_eq_false]
  refine ⟨⟨?_, fun hexcludes => ?_⟩, hok, ⟨?_, fun ⟨hbounds, htakes⟩ => ?_⟩,
    fun index source type hget hdemands => ?_⟩
  case refine_1 =>
    rintro ⟨reason, hcount, -⟩
    exact (checkArity_eq_error_iff.mp hcount).1
  case refine_2 =>
    exact ⟨_, checkArity_eq_error_iff.mpr ⟨hexcludes, rfl⟩, validate_of_excludes hexcludes function,
      rfl⟩
  case refine_3 =>
    rintro ⟨index, arg, expected, hfirst, reason, hvalidate, hkind, -⟩
    refine ⟨fun hexcludes => ?_, hfirst.not_takes⟩
    rw [validate_of_excludes hexcludes] at hvalidate
    obtain rfl := Except.error.inj hvalidate
    cases hkind
  case refine_4 =>
    obtain ⟨index, arg, expected, hfirst, hcheck⟩ := exists_firstRejected htakes function
    rw [← validate_of_not_excludes hbounds] at hcheck
    exact ⟨index, arg, expected, hfirst, _, hcheck, rfl, rfl, rfl⟩
  case refine_5 =>
    have hrefused : type.accepts .expression = false := not_accepts_expression type
    refine ⟨hrefused, ?_⟩
    cases hvalidate : signature.validate function args with
    | error reason => exact ⟨reason, rfl⟩
    | ok =>
      have haccepts := (hok.mp hvalidate).2 index _ type hget hdemands
      rw [Argument.kind, hrefused] at haccepts
      cases haccepts

/-- An expression after the declared types, the last of which asks for any value. -/
theorem validate_verdict_expression :
    ∃ reason, (⟨[.string, .any], .atLeast 1⟩ : Signature).validate "f"
        [.value (.string "a"), .value .null, .expression "b"] = .error reason ∧
      reason.message =
        "invalid argument type calling \"f\": argument 3 expected any value but was expression" := by
  obtain ⟨-, reason, hvalidate⟩ := (validate_verdict ⟨[.string, .any], .atLeast 1⟩ "f"
    [.value (.string "a"), .value .null, .expression "b"]).2.2.2 2 "b" .any rfl
    (.repeated (by decide) rfl)
  refine ⟨reason, hvalidate, ?_⟩
  obtain rfl := Except.error.inj (hvalidate.symm.trans rfl)
  decide

end Signature

end QueryFunctions
