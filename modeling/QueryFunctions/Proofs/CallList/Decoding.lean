import Mathlib.Data.List.Forall2
import Mathlib.Tactic.SplitIfs
import QueryFunctions.CallList

/-! What calls and arguments are read from. An object is the form of a call or of an expression if
just one of its fields has the name that counts; what its other fields hold does not matter. A
value is the same however deep it is nested, as long as it is not nested too deep. -/

namespace QueryFunctions

/-! ### Lists -/

section

variable {α β γ : Type} {as : List α}

theorem exists_forall₂ {R : α → β → Prop} (h : ∀ a ∈ as, ∃ b, R a b) :
    ∃ bs, List.Forall₂ R as bs := by
  induction as with
  | nil => exact ⟨[], .nil⟩
  | cons a as ih =>
    obtain ⟨⟨b, hfirst⟩, hrest⟩ := List.forall_mem_cons.mp h
    obtain ⟨bs, hbs⟩ := ih hrest
    exact ⟨b :: bs, .cons hfirst hbs⟩

theorem exists_mem_of_forall₂ {R : α → β → Prop} {bs : List β} (h : List.Forall₂ R as bs) {a : α}
    (ha : a ∈ as) : ∃ b ∈ bs, R a b := by
  induction h with
  | nil => cases ha
  | cons hfirst _ ih =>
    rcases List.mem_cons.mp ha with rfl | ha
    · exact ⟨_, List.mem_cons_self, hfirst⟩
    · obtain ⟨b, hb, hab⟩ := ih ha
      exact ⟨b, List.mem_cons_of_mem _ hb, hab⟩

theorem exists_forall₂_between {R : α → β → Prop} {S : β → γ → Prop} {cs : List γ}
    (h : List.Forall₂ (fun a c => ∃ b, R a b ∧ S b c) as cs) :
    ∃ bs, List.Forall₂ R as bs ∧ List.Forall₂ S bs cs := by
  induction h with
  | nil => exact ⟨[], .nil, .nil⟩
  | cons hfirst _ ih =>
    obtain ⟨b, hleft, hright⟩ := hfirst
    obtain ⟨bs, hlefts, hrights⟩ := ih
    exact ⟨b :: bs, .cons hleft hlefts, .cons hright hrights⟩

theorem mapM_eq_some_iff {f : α → Option β} {bs : List β} :
    as.mapM f = some bs ↔ List.Forall₂ (fun a b => f a = some b) as bs := by
  induction as generalizing bs with
  | nil =>
    rw [List.mapM_nil, List.forall₂_nil_left_iff]
    exact Option.some_inj.trans eq_comm
  | cons a as ih =>
    rw [List.mapM_cons, List.forall₂_cons_left_iff]
    constructor
    · intro h
      obtain ⟨b, hb, h⟩ := Option.bind_eq_some_iff.mp h
      obtain ⟨rest, hrest, h⟩ := Option.bind_eq_some_iff.mp h
      exact ⟨b, rest, hb, ih.mp hrest, (Option.some.inj h).symm⟩
    · rintro ⟨b, rest, hb, hrest, rfl⟩
      exact Option.bind_eq_some_iff.mpr
        ⟨b, hb, Option.bind_eq_some_iff.mpr ⟨rest, ih.mpr hrest, rfl⟩⟩

end

namespace Spelling

/-! ### Depth -/

mutual

/-- A value stays the same where deeper nesting is allowed. -/
theorem value?_mono : ∀ (spelling : Spelling) {depth deeper : Nat} {v : Json}, depth ≤ deeper →
    spelling.value? depth = some v → spelling.value? deeper = some v
  | .null, _, _, _, _, h => h
  | .bool _, _, _, _, _, h => h
  | .number _, _, _, _, _, h => h
  | .string _, _, _, _, _, h => h
  | .array items, depth, deeper, _, hle, h => by
    unfold value? at h ⊢
    split_ifs at h with hdepth
    obtain ⟨vs, hvs, rfl⟩ := Option.map_eq_some_iff.mp h
    rw [if_neg (by omega), values?_mono items (by omega) hvs]
    rfl
  | .object fields, depth, deeper, _, hle, h => by
    unfold value? at h ⊢
    split_ifs at h with hdepth
    obtain ⟨vs, hvs, rfl⟩ := Option.map_eq_some_iff.mp h
    rw [if_neg (by omega), fieldValues?_mono fields (by omega) hvs]
    rfl

theorem values?_mono : ∀ (items : List Spelling) {depth deeper : Nat} {vs : List Json},
    depth ≤ deeper → values? items depth = some vs → values? items deeper = some vs
  | [], _, _, _, _, h => h
  | item :: items, _, _, _, hle, h => by
    obtain ⟨first, hfirst, h⟩ := Option.bind_eq_some_iff.mp h
    obtain ⟨rest, hrest, h⟩ := Option.bind_eq_some_iff.mp h
    exact Option.bind_eq_some_iff.mpr ⟨first, value?_mono item hle hfirst,
      Option.bind_eq_some_iff.mpr ⟨rest, values?_mono items hle hrest, h⟩⟩

theorem fieldValues?_mono : ∀ (fields : List (Option String × Spelling)) {depth deeper : Nat}
    {vs : List (String × Json)}, depth ≤ deeper → fieldValues? fields depth = some vs →
      fieldValues? fields deeper = some vs
  | [], _, _, _, _, h => h
  | (name, field) :: fields, _, _, _, hle, h => by
    obtain ⟨name, hname, h⟩ := Option.bind_eq_some_iff.mp h
    obtain ⟨first, hfirst, h⟩ := Option.bind_eq_some_iff.mp h
    obtain ⟨rest, hrest, h⟩ := Option.bind_eq_some_iff.mp h
    exact Option.bind_eq_some_iff.mpr ⟨name, hname,
      Option.bind_eq_some_iff.mpr ⟨first, value?_mono field hle hfirst,
        Option.bind_eq_some_iff.mpr ⟨rest, fieldValues?_mono fields hle hrest, h⟩⟩⟩

end

end Spelling

namespace Call

variable {name : String} {fields : List (Option String × Spelling)} {v item : Spelling}
  {depth : Nat} {arg : Argument} {call : Call}

/-! ### Fields -/

/-- Just one field of an object has a name, and this field holds a value. -/
def OnlyField (name : String) (fields : List (Option String × Spelling)) (v : Spelling) : Prop :=
  ∃ before after, fields = before ++ (some name, v) :: after ∧
    ∀ field ∈ before ++ after, field.1 ≠ some name

theorem fieldsNamed_eq_nil_iff :
    fieldsNamed name fields = [] ↔ ∀ field ∈ fields, field.1 ≠ some name := by
  simp [fieldsNamed]

theorem fieldsNamed_eq_singleton_iff : fieldsNamed name fields = [v] ↔ OnlyField name fields v := by
  constructor
  · intro h
    obtain ⟨⟨field, _⟩, hfilter, rfl⟩ := List.map_eq_singleton_iff.mp h
    obtain ⟨before, after, rfl, hbefore, hfield, hafter⟩ := List.filter_eq_cons_iff.mp hfilter
    obtain rfl : field = some name := by simpa using hfield
    refine ⟨before, after, rfl, List.forall_mem_append.mpr ⟨?_, ?_⟩⟩
    · simpa using hbefore
    · simpa using hafter
  · rintro ⟨before, after, rfl, hothers⟩
    obtain ⟨hbefore, hafter⟩ := List.forall_mem_append.mp hothers
    have hnil : fieldsNamed name before = [] ∧ fieldsNamed name after = [] :=
      ⟨fieldsNamed_eq_nil_iff.mpr hbefore, fieldsNamed_eq_nil_iff.mpr hafter⟩
    unfold fieldsNamed at hnil ⊢
    rw [List.filter_append, List.map_append, hnil.1, List.filter_cons_of_pos (by simp),
      List.map_cons, hnil.2, List.nil_append]

/-! ### Arguments -/

/-- A spelling refers to an expression: it is an object with one field of the name `expression`,
which holds the source of the expression as a string. -/
def RefersTo (source : String) (item : Spelling) : Prop :=
  ∃ fields, item = .object fields ∧ OnlyField "expression" fields (.string (some source))

theorem RefersTo.argument? {source : String} {v : Json} (h : RefersTo source item)
    (hv : item.value? depth = some v) : argument? depth item = some (.expression source) := by
  obtain ⟨fields, rfl, honly⟩ := h
  unfold Call.argument?
  rw [hv]
  simp only [Option.bind_eq_bind, Option.bind_some, fieldsNamed_eq_singleton_iff.mpr honly]

theorem argument?_of_not_refersTo {v : Json} (h : ∀ source, ¬ RefersTo source item)
    (hv : item.value? depth = some v) : argument? depth item = some (.value v) := by
  unfold argument?
  rw [hv]
  simp only [Option.bind_eq_bind, Option.bind_some]
  split
  next fields =>
    split
    next source hsource =>
      exact absurd ⟨fields, rfl, fieldsNamed_eq_singleton_iff.mp hsource⟩ (h source)
    next => rfl
  next => rfl

theorem exists_argument?_iff :
    (∃ arg, argument? depth item = some arg) ↔ ∃ v, item.value? depth = some v := by
  constructor
  · rintro ⟨arg, harg⟩
    obtain ⟨v, hv, -⟩ := Option.bind_eq_some_iff.mp harg
    exact ⟨v, hv⟩
  · rintro ⟨v, hv⟩
    by_cases hrefers : ∃ source, RefersTo source item
    · obtain ⟨source, hsource⟩ := hrefers
      exact ⟨.expression source, hsource.argument? hv⟩
    · exact ⟨.value v, argument?_of_not_refersTo (not_exists.mp hrefers) hv⟩

theorem argument?_eq_some (h : argument? depth item = some arg) {deeper : Nat}
    (hle : depth ≤ deeper) :
    (∀ source, arg = .expression source ↔ RefersTo source item) ∧
      ∀ v, arg = .value v ↔
        (∀ source, ¬ RefersTo source item) ∧ item.value? deeper = some v := by
  obtain ⟨v, hv⟩ := exists_argument?_iff.mp ⟨arg, h⟩
  by_cases hrefers : ∃ source, RefersTo source item
  · obtain ⟨source, hsource⟩ := hrefers
    obtain rfl := Option.some.inj ((hsource.argument? hv).symm.trans h)
    refine ⟨fun other => ⟨?_, fun hother => ?_⟩, fun w => iff_of_false nofun ?_⟩
    · rintro ⟨⟩
      exact hsource
    · exact Option.some.inj (h.symm.trans (hother.argument? hv))
    · exact fun hplain => hplain.1 source hsource
  · have hplain : ∀ source, ¬ RefersTo source item := not_exists.mp hrefers
    obtain rfl := Option.some.inj ((argument?_of_not_refersTo hplain hv).symm.trans h)
    have hdeeper : item.value? deeper = some v := item.value?_mono hle hv
    refine ⟨fun source => iff_of_false nofun (hplain source), fun w => ⟨?_, ?_⟩⟩
    · rintro ⟨⟩
      exact ⟨hplain, hdeeper⟩
    · rintro ⟨-, hw⟩
      rw [Option.some.inj (hdeeper.symm.trans hw)]

/-- A field that occurs twice makes no expression, and the value has the second. -/
example : argument? 1 (.object [(some "expression", .string (some "a")),
    (some "expression", .string (some "b"))]) =
      some (.value (.object [("expression", .string "b")])) := rfl

/-! ### Calls -/

/-- The name of a function and the spellings of its arguments are given by an object, in fields that
occur once, or by an array. There are no arguments where they are left out. -/
inductive Gives (function : String) : List Spelling → Spelling → Prop
  | bare {fields : List (Option String × Spelling)} (readable : ∀ field ∈ fields, field.1 ≠ none)
    (named : OnlyField "function" fields (.string (some function)))
    (absent : ∀ field ∈ fields, field.1 ≠ some "args") : Gives function [] (.object fields)
  | object {fields : List (Option String × Spelling)} {args : List Spelling}
    (readable : ∀ field ∈ fields, field.1 ≠ none)
    (named : OnlyField "function" fields (.string (some function)))
    (given : OnlyField "args" fields (.array args)) : Gives function args (.object fields)
  | single : Gives function [] (.array [.string (some function)])
  | array {args : List Spelling} :
    Gives function args (.array [.string (some function), .array args])

def ReadFrom (depth : Nat) (item : Spelling) (call : Call) : Prop :=
  ∃ items, Gives call.function items item ∧
    List.Forall₂ (fun item arg => argument? depth item = some arg) items call.args

theorem arguments?_eq_some_iff {args : List Argument} :
    arguments? depth item = some args ↔
      ∃ items, item = .array items ∧
        List.Forall₂ (fun item arg => argument? depth item = some arg) items args := by
  unfold arguments?
  split
  next items => simp [mapM_eq_some_iff]
  next h =>
    refine iff_of_false (by simp) ?_
    rintro ⟨items, rfl, -⟩
    exact h items rfl

theorem ofParts?_none_iff :
    ofParts? depth item none = some call ↔
      item = .string (some call.function) ∧ call.args = [] := by
  constructor
  · intro h
    unfold ofParts? at h
    split at h
    next function =>
      obtain rfl := Option.some.inj h
      exact ⟨rfl, rfl⟩
    next => cases h
  · rintro ⟨rfl, hargs⟩
    change some (Call.mk call.function []) = some call
    rw [← hargs]

theorem ofParts?_some_iff :
    ofParts? depth item (some v) = some call ↔
      item = .string (some call.function) ∧ arguments? depth v = some call.args := by
  constructor
  · intro h
    unfold ofParts? at h
    split at h
    next function =>
      obtain ⟨args, hargs, heq⟩ := Option.bind_eq_some_iff.mp h
      obtain rfl := Option.some.inj heq
      exact ⟨rfl, hargs⟩
    next => cases h
  · rintro ⟨rfl, hargs⟩
    exact Option.bind_eq_some_iff.mpr ⟨call.args, hargs, rfl⟩

/-- An object is a call if its names are readable, one field names a function, and at most one has
arguments. -/
theorem ofSpelling?_object_iff :
    ofSpelling? depth (.object fields) = some call ↔
      (∀ field ∈ fields, field.1 ≠ none) ∧
        OnlyField "function" fields (.string (some call.function)) ∧
        ((∀ field ∈ fields, field.1 ≠ some "args") ∧ call.args = [] ∨
          ∃ args, OnlyField "args" fields args ∧ arguments? depth args = some call.args) := by
  have hreadable : fields.any (·.1.isNone) = true ↔ ¬ ∀ field ∈ fields, field.1 ≠ none := by simp
  unfold ofSpelling?
  dsimp only
  constructor
  · intro h
    split_ifs at h with hnone
    refine ⟨not_not.mp (hnone ∘ hreadable.mpr), ?_⟩
    split at h
    next function hfunction hargs =>
      obtain ⟨rfl, hempty⟩ := ofParts?_none_iff.mp h
      exact ⟨fieldsNamed_eq_singleton_iff.mp hfunction,
        .inl ⟨fieldsNamed_eq_nil_iff.mp hargs, hempty⟩⟩
    next function args hfunction hargs =>
      obtain ⟨rfl, hread⟩ := ofParts?_some_iff.mp h
      exact ⟨fieldsNamed_eq_singleton_iff.mp hfunction,
        .inr ⟨args, fieldsNamed_eq_singleton_iff.mp hargs, hread⟩⟩
    next => cases h
  · rintro ⟨hnone, hfunction, ⟨habsent, hempty⟩ | ⟨args, hargs, hread⟩⟩
    · rw [if_neg (fun hany => hreadable.mp hany hnone), fieldsNamed_eq_singleton_iff.mpr hfunction,
        fieldsNamed_eq_nil_iff.mpr habsent]
      exact ofParts?_none_iff.mpr ⟨rfl, hempty⟩
    · rw [if_neg (fun hany => hreadable.mp hany hnone), fieldsNamed_eq_singleton_iff.mpr hfunction,
        fieldsNamed_eq_singleton_iff.mpr hargs]
      exact ofParts?_some_iff.mpr ⟨rfl, hread⟩

theorem ofSpelling?_eq_some_iff :
    ofSpelling? depth item = some call ↔ ReadFrom depth item call := by
  constructor
  · intro h
    cases item with
    | object fields =>
      obtain ⟨hnone, hfunction, ⟨habsent, hempty⟩ | ⟨args, hargs, hread⟩⟩ :=
        ofSpelling?_object_iff.mp h
      · exact ⟨[], .bare hnone hfunction habsent, hempty ▸ .nil⟩
      · obtain ⟨items, rfl, hitems⟩ := arguments?_eq_some_iff.mp hread
        exact ⟨items, .object hnone hfunction hargs, hitems⟩
    | array items =>
      unfold ofSpelling? at h
      split at h
      next heq => cases heq
      next function heq =>
        obtain ⟨rfl, hempty⟩ := ofParts?_none_iff.mp h
        cases heq
        exact ⟨[], .single, hempty ▸ .nil⟩
      next function args heq =>
        obtain ⟨rfl, hread⟩ := ofParts?_some_iff.mp h
        obtain ⟨items, rfl, hitems⟩ := arguments?_eq_some_iff.mp hread
        cases heq
        exact ⟨items, .array, hitems⟩
      next => cases h
    | _ => cases h
  · rintro ⟨args, hgives, hargs⟩
    cases hgives with
    | bare hnone hfunction habsent =>
      exact ofSpelling?_object_iff.mpr
        ⟨hnone, hfunction, .inl ⟨habsent, List.forall₂_nil_left_iff.mp hargs⟩⟩
    | object hnone hfunction hgiven =>
      exact ofSpelling?_object_iff.mpr ⟨hnone, hfunction,
        .inr ⟨_, hgiven, arguments?_eq_some_iff.mpr ⟨_, rfl, hargs⟩⟩⟩
    | single =>
      change ofParts? depth (.string (some call.function)) none = some call
      exact ofParts?_none_iff.mpr ⟨rfl, List.forall₂_nil_left_iff.mp hargs⟩
    | array => exact ofParts?_some_iff.mpr ⟨rfl, arguments?_eq_some_iff.mpr ⟨_, rfl, hargs⟩⟩

end Call

end QueryFunctions
