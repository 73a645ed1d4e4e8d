import Mathlib.Data.Finset.Card
import QueryFunctions.Proofs.Environment.Register

/-! What a history leaves in an environment. A register is kept in increasing order of its
names, so it is told by what each name stands for. The main statement is that an environment is
told by the function registered last under each name and by the limits given last: which names
there are, what each of them stands for, and that two histories with the same last steps cannot
be told apart. -/

namespace QueryFunctions

namespace Keyed

variable {α : Type} {name : String} {value : α} {entries others : List (String × α)}

/-- The names increase, so none of them comes twice. -/
def Increasing (entries : List (String × α)) : Prop := entries.Pairwise fun a b => a.1 < b.1

theorem Increasing.insert (h : Increasing entries) (name : String) (value : α) :
    Increasing (insert name value entries) := by
  induction entries with
  | nil => exact List.pairwise_singleton _ _
  | cons entry rest ih =>
    obtain ⟨other, old⟩ := entry
    obtain ⟨hfirst, hrest⟩ := List.pairwise_cons.mp h
    unfold Keyed.insert
    split_ifs with hlt hsame
    · refine List.pairwise_cons.mpr ⟨fun e he => ?_, h⟩
      rcases List.mem_cons.mp he with rfl | he
      · exact hlt
      · exact String.lt_trans hlt (hfirst e he)
    · subst hsame
      exact List.pairwise_cons.mpr ⟨hfirst, hrest⟩
    · have hgt : other < name :=
        String.not_le.mp fun hle => hsame (String.le_antisymm hle (String.not_lt.mp hlt))
      refine List.pairwise_cons.mpr ⟨fun e he => ?_, ih hrest⟩
      rcases mem_insert he with rfl | he
      · exact hgt
      · exact hfirst e he

theorem Increasing.nodup_names (h : Increasing entries) : (entries.map (·.1)).Nodup :=
  List.Pairwise.map _ (fun _ _ hlt heq => String.lt_irrefl _ (heq ▸ hlt)) h

theorem Increasing.nodup (h : Increasing entries) : entries.Nodup :=
  h.nodup_names.of_map

theorem Increasing.mem_iff (h : Increasing entries) :
    (name, value) ∈ entries ↔ find? name entries = some value := by
  refine ⟨fun hmem => ?_, mem_of_find?⟩
  induction entries with
  | nil => cases hmem
  | cons entry rest ih =>
    obtain ⟨other, old⟩ := entry
    obtain ⟨hfirst, hrest⟩ := List.pairwise_cons.mp h
    rw [find?_cons]
    rcases List.mem_cons.mp hmem with heq | hmem
    · obtain ⟨rfl, rfl⟩ := Prod.mk.inj heq
      exact if_pos rfl
    · have hne : name ≠ other := fun heq => String.lt_irrefl _ (heq ▸ hfirst _ hmem)
      rw [if_neg hne]
      exact ih hrest hmem

theorem Increasing.mem_names_iff (h : Increasing entries) :
    name ∈ entries.map (·.1) ↔ ∃ value, find? name entries = some value := by
  constructor
  · intro hmem
    obtain ⟨⟨_, value⟩, hentry, rfl⟩ := List.mem_map.mp hmem
    exact ⟨value, h.mem_iff.mp hentry⟩
  · rintro ⟨value, hfind⟩
    exact List.mem_map_of_mem (h.mem_iff.mpr hfind)

/-- A list under increasing names is told by what is found in it. -/
theorem Increasing.ext (h : Increasing entries) (h' : Increasing others)
    (hfind : ∀ name, find? name entries = find? name others) : entries = others := by
  have hperm : entries.Perm others := by
    refine (List.perm_ext_iff_of_nodup h.nodup h'.nodup).mpr fun entry => ?_
    obtain ⟨name, value⟩ := entry
    rw [h.mem_iff, h'.mem_iff, hfind]
  exact hperm.eq_of_pairwise
    (fun a b _ _ hab hba => absurd (String.lt_trans hab hba) (String.lt_irrefl _)) h h'

end Keyed

namespace Environment

variable {env : Environment} {name : String} {spec : FunctionSpec} {step : Change}
  {changes : List Change}

/-! ### The order of the register -/

def Ordered (env : Environment) : Prop := Keyed.Increasing env.register

theorem Ordered.change (h : env.Ordered) (step : Change) : (env.change step).Ordered := by
  cases step with
  | add spec => exact Keyed.Increasing.insert h _ _
  | limits limits => exact h

theorem Ordered.after (h : env.Ordered) (changes : List Change) : (env.after changes).Ordered := by
  induction changes generalizing env with
  | nil => exact h
  | cons step steps ih => exact ih (h.change step)

theorem ordered_empty : Ordered {} := List.Pairwise.nil

theorem Ordered.mem_names_iff (h : env.Ordered) :
    name ∈ env.names ↔ ∃ spec, env.resolve name = .ok spec := by
  simp only [resolve_eq_ok_iff]
  exact Keyed.Increasing.mem_names_iff h

/-- Names are ordered by the codes of their characters, from the first one on. -/
theorem Ordered.names_increase (h : env.Ordered) :
    env.names.Pairwise fun a b => a.toList.map Char.toNat < b.toList.map Char.toNat := by
  refine List.Pairwise.map _ (fun a b hlt => ?_) h
  have hchars : a.1.toList < b.1.toList := hlt
  exact List.map_lt (fun _ _ => id) hchars

/-- Environments in order are told by what each name stands for and by their limits. -/
theorem Ordered.ext {other : Environment} (h : env.Ordered) (h' : other.Ordered)
    (hresolve : ∀ name, env.resolve name = other.resolve name)
    (hlimits : env.limits = other.limits) : env = other := by
  have hregister : env.register = other.register := by
    refine Keyed.Increasing.ext h h' fun name => Option.ext fun spec => ?_
    rw [← resolve_eq_ok_iff, ← resolve_eq_ok_iff, hresolve]
  cases env
  cases other
  simp_all

/-! ### What histories register -/

def Change.name? : Change → Option String
  | .add spec => some spec.name
  | .limits _ => none

def Change.limits? : Change → Option Pattern.Limits
  | .add _ => none
  | .limits given => some given

def registeredNames (changes : List Change) : List String := changes.filterMap Change.name?

/-- The limits that a history gives last. -/
def lastLimits? (changes : List Change) : Option Pattern.Limits :=
  changes.reverse.findSome? Change.limits?

theorem Change.registered?_eq_none (h : step.name? ≠ some name) :
    step.registered? name = none := by
  cases step with
  | limits limits => rfl
  | add spec =>
    rw [Change.registered?, if_neg]
    rintro rfl
    exact h rfl

theorem resolve_change_of_ne (env : Environment) (h : step.name? ≠ some name) :
    (env.change step).resolve name = env.resolve name := by
  rw [resolve_change, Change.registered?_eq_none h]

theorem lastRegistered?_append (name : String) (changes later : List Change) :
    lastRegistered? name (changes ++ later) =
      (lastRegistered? name later).or (lastRegistered? name changes) := by
  rw [lastRegistered?, List.reverse_append, List.findSome?_append]
  rfl

theorem exists_lastRegistered?_iff :
    (∃ spec, lastRegistered? name changes = some spec) ↔ name ∈ registeredNames changes := by
  induction changes using List.reverseRecOn with
  | nil => simp [lastRegistered?, registeredNames]
  | append_singleton steps step ih =>
    rw [lastRegistered?_concat, registeredNames, List.filterMap_append, List.mem_append,
      ← registeredNames, ← ih]
    cases step with
    | limits limits => simp [Change.registered?, Change.name?]
    | add spec =>
      by_cases hname : name = spec.name
      · simp [Change.registered?, Change.name?, hname]
      · simp [Change.registered?, Change.name?, hname]

theorem lastLimits?_concat (changes : List Change) (step : Change) :
    lastLimits? (changes ++ [step]) = step.limits?.or (lastLimits? changes) := by
  cases hstep : step.limits? <;> simp [lastLimits?, hstep]

theorem limits_after (env : Environment) (changes : List Change) :
    (env.after changes).limits = (lastLimits? changes).getD env.limits := by
  induction changes using List.reverseRecOn with
  | nil => rfl
  | append_singleton steps step ih =>
    rw [after_concat, lastLimits?_concat]
    cases step with
    | limits limits => rfl
    | add spec => exact ih

/-! ### Starts -/

inductive Start where
  | empty
  | standard

namespace Start

def environment : Start → Environment
  | empty => {}
  | standard => .standard

/-- The steps that lead from the empty environment to the start. -/
def steps : Start → List Change
  | empty => []
  | standard => standardFunctions.map .add

theorem environment_eq (start : Start) : start.environment = after {} start.steps := by
  cases start with
  | empty => rfl
  | standard => exact ofSpecs_eq_after standardFunctions

theorem after_eq (start : Start) (changes : List Change) :
    start.environment.after changes = after {} (start.steps ++ changes) := by
  rw [environment_eq, after, after, after, List.foldl_append]

theorem ordered_after (start : Start) (changes : List Change) :
    (start.environment.after changes).Ordered := by
  rw [after_eq]
  exact ordered_empty.after _

theorem lastLimits?_steps (start : Start) : lastLimits? start.steps = none := by
  cases start <;> rfl

theorem limits_environment (start : Start) : start.environment.limits = {} := by
  rw [environment_eq, limits_after, lastLimits?_steps]
  rfl

end Start

theorem resolve_after_start (start : Start) (changes : List Change) (name : String) :
    (start.environment.after changes).resolve name =
      match lastRegistered? name (start.steps ++ changes) with
      | some spec => .ok spec
      | none => .error ⟨.unknownFunction name, name⟩ := by
  rw [start.after_eq, resolve_after]
  cases lastRegistered? name (start.steps ++ changes) <;> rfl

theorem exists_resolve_after_iff (env : Environment) (changes : List Change) (name : String) :
    (∃ spec, (env.after changes).resolve name = .ok spec) ↔
      (∃ spec, env.resolve name = .ok spec) ∨ name ∈ registeredNames changes := by
  rw [resolve_after, ← exists_lastRegistered?_iff]
  cases lastRegistered? name changes <;> simp

/-- An environment is what a history has made of a start. -/
structure HasHistory (env : Environment) (start : Start) (changes : List Change) : Prop where
  /-- Every function is registered under its own name. -/
  named : ∀ entry ∈ env.register, entry.1 = entry.2.name
  /-- A name stands for the function that was registered last under it. -/
  resolve_eq : ∀ name, env.resolve name =
    match lastRegistered? name (start.steps ++ changes) with
    | some spec => .ok spec
    | none => .error ⟨.unknownFunction name, name⟩
  /-- The names that stand for a function were there at the start or have been registered. -/
  resolves_iff : ∀ name, (∃ spec, env.resolve name = .ok spec) ↔
    name ∈ start.environment.names ∨ name ∈ registeredNames changes
  /-- One more step leaves the names alone that it does not register. -/
  untouched : ∀ step name, Change.name? step ≠ some name →
    (start.environment.after (changes ++ [step])).resolve name = env.resolve name
  /-- The names are listed in strictly increasing order of the codes of their characters. -/
  names_increase :
    env.names.Pairwise fun a b => a.toList.map Char.toNat < b.toList.map Char.toNat
  mem_names_iff : ∀ name, name ∈ env.names ↔ ∃ spec, env.resolve name = .ok spec
  /-- There are as many names as different ones at the start and among those registered. -/
  length_names : env.names.length =
    (start.environment.names ++ registeredNames changes).toFinset.card
  limits_eq : env.limits = (lastLimits? changes).getD {}

theorem hasHistory_after (start : Start) (changes : List Change) :
    HasHistory (start.environment.after changes) start changes := by
  have hordered := start.ordered_after changes
  have hstart : start.environment.Ordered := start.ordered_after []
  have hresolves (name : String) :
      (∃ spec, (start.environment.after changes).resolve name = .ok spec) ↔
        name ∈ start.environment.names ∨ name ∈ registeredNames changes := by
    rw [exists_resolve_after_iff, hstart.mem_names_iff]
  have hnames : (start.environment.after changes).names.toFinset =
      (start.environment.names ++ registeredNames changes).toFinset := by
    ext name
    rw [List.mem_toFinset, List.mem_toFinset, hordered.mem_names_iff, hresolves, List.mem_append]
  refine ⟨?_, resolve_after_start start changes, hresolves, fun step name hstep => ?_,
    hordered.names_increase, fun name => hordered.mem_names_iff, ?_, ?_⟩
  case refine_1 =>
    rw [start.after_eq]
    exact wellNamed_empty.after _
  case refine_2 => rw [after_concat, resolve_change_of_ne _ hstep]
  case refine_3 =>
    have hnodup : (start.environment.after changes).names.Nodup :=
      Keyed.Increasing.nodup_names hordered
    rw [← hnames, List.toFinset_card_of_nodup hnodup]
  case refine_4 => rw [limits_after, start.limits_environment]

/-- Histories with the same last function under each name and the same last limits make the
same environment. -/
theorem after_eq_of_last {start start' : Start} {changes changes' : List Change}
    (hspecs : ∀ name, lastRegistered? name (start.steps ++ changes) =
      lastRegistered? name (start'.steps ++ changes'))
    (hlimits : (lastLimits? changes).getD {} = (lastLimits? changes').getD {}) :
    start.environment.after changes = start'.environment.after changes' := by
  refine (start.ordered_after changes).ext (start'.ordered_after changes') (fun name => ?_) ?_
  · rw [resolve_after_start, resolve_after_start, hspecs]
  · rw [(hasHistory_after start changes).limits_eq, (hasHistory_after start' changes').limits_eq,
      hlimits]

/-- An environment is told by its history, and of the history only the last function under each
name and the last limits matter: in whatever order steps for different names come, neither the
names nor checks nor calls can tell the environments apart. -/
theorem register_determined_by_last_steps (start : Start) (changes : List Change) :
    HasHistory (start.environment.after changes) start changes ∧
      ∀ (start' : Start) (changes' : List Change),
        (∀ name, lastRegistered? name (start.steps ++ changes) =
          lastRegistered? name (start'.steps ++ changes')) →
        (lastLimits? changes).getD {} = (lastLimits? changes').getD {} →
          (start.environment.after changes).names = (start'.environment.after changes').names ∧
          (∀ name count, (start.environment.after changes).checkCall name count =
            (start'.environment.after changes').checkCall name count) ∧
          ∀ name args, (start.environment.after changes).call name args =
            (start'.environment.after changes').call name args := by
  refine ⟨hasHistory_after start changes, fun start' changes' hspecs hlimits => ?_⟩
  have hsame := after_eq_of_last hspecs hlimits
  exact ⟨by rw [hsame], fun name count => by rw [hsame], fun name args => by rw [hsame]⟩

/-- Functions that are registered in another order, one of them in place of a standard one and
in one history twice, with limits that are changed and set back. -/
theorem register_determined_by_last_steps_reordered :
    let first : FunctionSpec := ⟨"", .variadic 0 .any, Library.concat⟩
    let second : FunctionSpec := ⟨"concat", .exact [.string], Library.upperCase⟩
    let old : FunctionSpec := ⟨"concat", .exact [], Library.lowerCase⟩
    let changes : List Change := [.add first, .limits { program := 0 }, .add second, .limits {}]
    let changes' : List Change := [.add old, .add second, .add first]
    (∀ name, lastRegistered? name (Start.standard.steps ++ changes) =
      lastRegistered? name (Start.standard.steps ++ changes')) ∧
    (Start.standard.environment.after changes).names =
      (Start.standard.environment.after changes').names ∧
    (Start.standard.environment.after changes).call "concat" [.value (.string "a")] =
      (Start.standard.environment.after changes').call "concat" [.value (.string "a")] := by
  intro first second old changes changes'
  have hspecs (name : String) : lastRegistered? name (Start.standard.steps ++ changes) =
      lastRegistered? name (Start.standard.steps ++ changes') := by
    have hlast : lastRegistered? name changes = lastRegistered? name changes' := by
      by_cases hfirst : name = first.name
      · subst hfirst
        rfl
      · by_cases hsecond : name = second.name
        · subst hsecond
          rfl
        · have hold : name ≠ old.name := hsecond
          simp [lastRegistered?, changes, changes', Change.registered?, hfirst, hsecond, hold]
    rw [lastRegistered?_append, lastRegistered?_append, hlast]
  obtain ⟨hnames, -, hcall⟩ :=
    (register_determined_by_last_steps .standard changes).2 .standard changes' hspecs rfl
  exact ⟨hspecs, hnames, hcall _ _⟩

end Environment

end QueryFunctions
