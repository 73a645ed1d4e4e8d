import QueryFunctions.Proofs.Function.Validation
import QueryFunctions.Proofs.Library.PatternCalls

/-! Concatenations. Which arguments vanish from a concatenation is decided twice: the values are
picked out of the list and the nulls dropped, and a text that is asked for by position is empty
where the position holds null or no value. Both decide alike for every list of arguments. A
concatenation is a string, which is taken as it is where text is wanted, so values can be
concatenated group by group. -/

namespace QueryFunctions

namespace Argument

def text (arg : Argument) : String := (arg.value?.map Json.coerced).getD ""

def isNull : Argument → Bool
  | value .null => true
  | _ => false

theorem text_of_isNull {arg : Argument} (h : arg.isNull = true) : arg.text = "" := by
  unfold isNull at h
  split at h
  · rfl
  · cases h

end Argument

theorem textAt_of_getElem? {args : List Argument} {index : Nat} {arg : Argument}
    (h : args[index]? = some arg) : textAt args index = arg.text := by
  rw [textAt, textAt?, valueAt?, h]
  rfl

theorem map_textAt_range (args : List Argument) :
    (List.range args.length).map (textAt args) = args.map Argument.text := by
  refine List.ext_getElem (by simp) fun index hrange _ => ?_
  rw [List.getElem_map, List.getElem_map, List.getElem_range]
  exact textAt_of_getElem? (List.getElem?_eq_getElem _)

namespace Library

open Pattern (Limits)

variable {limits : Limits} {args : List Argument} {values : List Json} {groups : List (List Json)}

/-! ### The body -/

def joined (args : List Argument) : String := .join (args.map Argument.text)

/-- Leaving something out of a join is joining the empty text in its place. -/
theorem join_filterMap {α : Type} (part : α → Option String) (items : List α) :
    String.join (items.filterMap part) = .join (items.map fun item => (part item).getD "") := by
  induction items with
  | nil => rfl
  | cons item items ih =>
    rw [List.map_cons, String.join_cons, ← ih]
    cases hpart : part item with
    | none =>
      rw [List.filterMap_cons_none hpart]
      exact String.empty_append.symm
    | some text =>
      rw [List.filterMap_cons_some hpart]
      exact String.join_cons

/-- What an argument adds to a concatenation is its text. -/
theorem getD_concatPart (arg : Argument) :
    (arg.value?.bind concatPart).getD "" = arg.text := by
  cases arg with
  | expression source => rfl
  | value v => cases v <;> rfl

theorem concat_eq (host : Host) (args : List Argument) :
    concat host args = pure (.string (joined args)) := by
  rw [concat, List.filterMap_filterMap, join_filterMap, joined]
  simp only [getD_concatPart]

/-! ### Nulls and groups -/

/-- Nulls do not count in a concatenation. -/
theorem joined_filter_isNull (args : List Argument) :
    joined (args.filter (!·.isNull)) = joined args := by
  induction args with
  | nil => rfl
  | cons arg args ih =>
    unfold joined at ih ⊢
    rw [List.map_cons, String.join_cons, ← ih]
    cases hnull : arg.isNull with
    | true =>
      rw [List.filter_cons_of_neg (by simp [hnull]), Argument.text_of_isNull hnull,
        String.empty_append]
    | false =>
      rw [List.filter_cons_of_pos (by simp [hnull]), List.map_cons, String.join_cons]

def joinedValues (values : List Json) : String := joined (values.map .value)

/-- A concatenation is taken as it is for an argument of another one. -/
theorem joinedValues_groups (groups : List (List Json)) :
    joinedValues (groups.map fun group => .string (joinedValues group)) =
      joinedValues groups.flatten := by
  induction groups with
  | nil => rfl
  | cons group groups ih =>
    unfold joinedValues joined at ih ⊢
    rw [List.map_cons, List.map_cons, List.map_cons, String.join_cons, ih, List.flatten_cons,
      List.map_append, List.map_append, String.join_append]
    rfl

theorem onValues_concat (limits : Limits) (h : 2 ≤ values.length) :
    onValues limits "concat" values = .value (.string (joinedValues values)) := by
  have hvalid : (Signature.variadic 2 .any).validate "concat" (values.map .value) = .ok () := by
    refine Signature.validate_eq_ok_iff.mpr ⟨?_, fun i arg hi => ?_⟩
    · simpa [Signature.variadic, Arity.atLeast, Arity.accepts] using h
    · have htype : (Signature.variadic 2 .any).typeAt? i = some .any :=
        Signature.typeAt?_single ..
      obtain ⟨v, -, rfl⟩ := List.mem_map.mp (List.mem_of_getElem? hi)
      rw [Signature.admits_of_typeAt? htype]
      cases v <;> rfl
  have hbody (host : Host) : (concat host (values.map .value)).outcome =
      .value (.string (joinedValues values)) := by
    rw [concat_eq]
    rfl
  exact onValues_eq rfl hvalid hbody

theorem two_le_length_flatten (h : 2 ≤ groups.length)
    (hgroups : ∀ group ∈ groups, 2 ≤ group.length) : 2 ≤ groups.flatten.length := by
  cases groups with
  | nil => simp at h
  | cons group groups =>
    have hgroup := hgroups group List.mem_cons_self
    rw [List.flatten_cons, List.length_append]
    omega

/-- A concatenation is the texts of all positions one after another, where positions that hold null
or an expression have none. So arguments that differ in nulls only have the same concatenation. Of
values in groups, two or more of at least two values each, every group can be concatenated, and
concatenating the results comes to the same as concatenating all the values at once. -/
theorem concatenation_of_texts (limits : Limits) :
    (∀ host args, concat host args =
      pure (.string (.join ((List.range args.length).map (textAt args))))) ∧
    (∀ host args others, args.filter (!·.isNull) = others.filter (!·.isNull) →
      concat host args = concat host others) ∧
    ∀ groups : List (List Json), 2 ≤ groups.length → (∀ group ∈ groups, 2 ≤ group.length) →
      ∃ results text, groups.map (onValues limits "concat") = results.map .value ∧
        onValues limits "concat" results = .value (.string text) ∧
        onValues limits "concat" groups.flatten = .value (.string text) := by
  refine ⟨fun host args => ?_, fun host args others h => ?_, fun groups h hgroups => ?_⟩
  case refine_1 => rw [map_textAt_range, concat_eq, joined]
  case refine_2 =>
    rw [concat_eq, concat_eq, ← joined_filter_isNull args, h, joined_filter_isNull others]
  case refine_3 =>
    refine ⟨groups.map fun group => .string (joinedValues group), joinedValues groups.flatten,
      ?_, ?_, onValues_concat limits (two_le_length_flatten h hgroups)⟩
    · rw [List.map_map]
      exact List.map_congr_left fun group hgroup => onValues_concat limits (hgroups group hgroup)
    · rw [onValues_concat limits (by rwa [List.length_map]), joinedValues_groups]

/-- A null in an array and the string "null" keep their texts, and a null of its own has none. -/
theorem concatenation_of_texts_null :
    (∀ host, concat host [.value .null, .value (.string "a"), .expression "b"] =
      concat host [.value (.string "a"), .expression "b", .value .null]) ∧
    ∃ results text,
      [[Json.array [.null], .null], [.null, .string "null", .bool true]].map
        (onValues {} "concat") = results.map .value ∧
      onValues {} "concat" results = .value (.string text) ∧
      onValues {} "concat" [.array [.null], .null, .null, .string "null", .bool true] =
        .value (.string text) := by
  obtain ⟨-, hnulls, hgroups⟩ := concatenation_of_texts {}
  exact ⟨fun host => hnulls host _ _ rfl, hgroups _ (by decide) (by decide)⟩

end Library

end QueryFunctions
