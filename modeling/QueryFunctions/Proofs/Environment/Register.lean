import Mathlib.Data.List.Induction
import Mathlib.Tactic.SplitIfs
import QueryFunctions.Library.Standard

/-! Histories of environments. An environment comes from another one by registering functions
and by changing the limits, in any order. The main statement is that after any such history
every function is registered under its own name. -/

namespace QueryFunctions

namespace Keyed

variable {α : Type} {name key : String} {value : α} {entries : List (String × α)}

theorem find?_cons (name other : String) (old : α) (entries : List (String × α)) :
    find? name ((other, old) :: entries) =
      if name = other then some old else find? name entries := by
  by_cases h : name = other
  · subst h
    simp [find?]
  · simp [find?, List.lookup_cons, beq_false_of_ne h, h]

theorem find?_insert (name key : String) (value : α) (entries : List (String × α)) :
    find? name (insert key value entries) =
      if name = key then some value else find? name entries := by
  induction entries with
  | nil => rw [insert, find?_cons]
  | cons entry rest ih =>
    obtain ⟨other, old⟩ := entry
    rw [insert]
    by_cases hlt : key < other
    · rw [if_pos hlt, find?_cons]
    · rw [if_neg hlt]
      by_cases hsame : key = other
      · subst hsame
        rw [if_pos rfl, find?_cons, find?_cons]
        by_cases hname : name = key <;> simp [hname]
      · rw [if_neg hsame, find?_cons, ih, find?_cons]
        by_cases hother : name = other
        · simp [hother, Ne.symm hsame]
        · simp [hother]

theorem mem_insert {entry : String × α} (h : entry ∈ insert key value entries) :
    entry = (key, value) ∨ entry ∈ entries := by
  induction entries with
  | nil => exact .inl (List.mem_singleton.mp h)
  | cons head rest ih =>
    unfold insert at h
    split_ifs at h with hlt hsame
    · exact List.mem_cons.mp h
    · exact (List.mem_cons.mp h).imp_right (List.mem_cons_of_mem _)
    · rcases List.mem_cons.mp h with rfl | hrest
      · exact .inr (List.mem_cons_self ..)
      · exact (ih hrest).imp_right (List.mem_cons_of_mem _)

theorem mem_of_find? (h : find? name entries = some value) : (name, value) ∈ entries := by
  induction entries with
  | nil => simp [find?] at h
  | cons entry rest ih =>
    obtain ⟨other, old⟩ := entry
    rw [find?_cons] at h
    split_ifs at h with hname
    · obtain rfl := Option.some.inj h
      exact hname ▸ List.mem_cons_self ..
    · exact List.mem_cons_of_mem _ (ih h)

end Keyed

namespace Environment

variable {env : Environment} {name : String} {spec : FunctionSpec}

/-! ### Single steps -/

theorem resolve_eq_ok_iff :
    env.resolve name = .ok spec ↔ Keyed.find? name env.register = some spec := by
  unfold resolve
  split <;> simp_all

/-- A name that is not found fails for one reason. -/
theorem eq_of_resolve_eq_error {reason : Failure} (h : env.resolve name = .error reason) :
    reason = ⟨.unknownFunction name, name⟩ := by
  unfold resolve at h
  split at h
  · cases h
  · exact (Except.error.inj h).symm

theorem resolve_add (env : Environment) (spec : FunctionSpec) (name : String) :
    (env.add spec).resolve name = if name = spec.name then .ok spec else env.resolve name := by
  simp only [resolve, add, Keyed.find?_insert]
  split_ifs <;> rfl

/-! ### Histories -/

inductive Change where
  | add (spec : FunctionSpec)
  | limits (limits : Pattern.Limits)

def change (env : Environment) : Change → Environment
  | .add spec => env.add spec
  | .limits limits => env.withLimits limits

/-- The environment after some steps, from the first to the last. -/
def after (env : Environment) (changes : List Change) : Environment := changes.foldl change env

def Change.registered? (name : String) : Change → Option FunctionSpec
  | .add spec => if name = spec.name then some spec else none
  | .limits _ => none

/-- The function that a history registers last under a name. -/
def lastRegistered? (name : String) (changes : List Change) : Option FunctionSpec :=
  changes.reverse.findSome? (·.registered? name)

theorem resolve_change (env : Environment) (step : Change) (name : String) :
    (env.change step).resolve name =
      match step.registered? name with
      | some spec => .ok spec
      | none => env.resolve name := by
  cases step with
  | limits limits => rfl
  | add spec =>
    rw [change, resolve_add, Change.registered?]
    split_ifs <;> rfl

theorem after_concat (env : Environment) (changes : List Change) (step : Change) :
    env.after (changes ++ [step]) = (env.after changes).change step := by
  simp [after]

theorem lastRegistered?_concat (name : String) (changes : List Change) (step : Change) :
    lastRegistered? name (changes ++ [step]) =
      (step.registered? name).or (lastRegistered? name changes) := by
  cases hstep : step.registered? name <;> simp [lastRegistered?, hstep]

/-- After a history a name stands for the function that was registered last under it; names
that were not registered stand for what they did before. -/
theorem resolve_after (env : Environment) (changes : List Change) (name : String) :
    (env.after changes).resolve name =
      match lastRegistered? name changes with
      | some spec => .ok spec
      | none => env.resolve name := by
  induction changes using List.reverseRecOn with
  | nil => rfl
  | append_singleton steps step ih =>
    rw [after_concat, resolve_change, ih, lastRegistered?_concat]
    cases step.registered? name <;> rfl

/-- Every function is registered under its own name. -/
def WellNamed (env : Environment) : Prop := ∀ entry ∈ env.register, entry.1 = entry.2.name

theorem wellNamed_empty : WellNamed {} := fun _ h => absurd h List.not_mem_nil

theorem WellNamed.add (h : env.WellNamed) (spec : FunctionSpec) : (env.add spec).WellNamed := by
  intro entry hentry
  rcases Keyed.mem_insert hentry with rfl | hold
  · rfl
  · exact h entry hold

theorem WellNamed.change (h : env.WellNamed) (step : Change) : (env.change step).WellNamed := by
  cases step with
  | add spec => exact h.add spec
  | limits limits => exact h

theorem WellNamed.after (h : env.WellNamed) (changes : List Change) :
    (env.after changes).WellNamed := by
  induction changes generalizing env with
  | nil => exact h
  | cons step steps ih => exact ih (h.change step)

theorem WellNamed.name_eq (h : env.WellNamed) (hresolve : env.resolve name = .ok spec) :
    spec.name = name :=
  (h _ (Keyed.mem_of_find? (resolve_eq_ok_iff.mp hresolve))).symm

/-! ### The standard functions -/

theorem ofSpecs_eq_after (specs : List FunctionSpec) :
    ofSpecs specs = after {} (specs.map .add) := by
  rw [ofSpecs, after, List.foldl_map]
  rfl

theorem wellNamed_standard : standard.WellNamed := by
  rw [standard, ofSpecs_eq_after]
  exact wellNamed_empty.after _

theorem mem_of_resolve_ofSpecs {specs : List FunctionSpec}
    (h : (ofSpecs specs).resolve name = .ok spec) : spec ∈ specs := by
  rw [ofSpecs_eq_after, resolve_after] at h
  cases hlast : lastRegistered? name (specs.map .add) with
  | none =>
    rw [hlast] at h
    cases h
  | some found =>
    rw [hlast] at h
    obtain rfl := Except.ok.inj h
    obtain ⟨step, hstep, hfound⟩ := List.exists_of_findSome?_eq_some hlast
    obtain ⟨spec, hspec, rfl⟩ := List.mem_map.mp (List.mem_reverse.mp hstep)
    rw [Change.registered?] at hfound
    split_ifs at hfound
    obtain rfl := Option.some.inj hfound
    exact hspec

/-- The environment has the standard functions, and may have others beside them. -/
def HoldsStandard (env : Environment) : Prop :=
  ∀ spec ∈ standardFunctions, env.resolve spec.name = .ok spec

theorem holdsStandard_standard : standard.HoldsStandard := by
  simp only [HoldsStandard, standardFunctions, List.forall_mem_cons]
  exact ⟨rfl, rfl, rfl, rfl, rfl, rfl, rfl, rfl, rfl, rfl, rfl, rfl, rfl, rfl, rfl,
    List.forall_mem_nil _⟩

/-- The standard functions stay, if nothing is registered under their names. -/
theorem HoldsStandard.after (h : env.HoldsStandard) (changes : List Change)
    (hnames : ∀ spec ∈ standardFunctions, lastRegistered? spec.name changes = none) :
    (env.after changes).HoldsStandard := by
  intro spec hspec
  rw [resolve_after, hnames spec hspec]
  exact h spec hspec

end Environment

end QueryFunctions
