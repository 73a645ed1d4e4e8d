import QueryFunctions.Proofs.Library.PatternCalls
import QueryFunctions.Proofs.Library.Substrings

/-! The parts of a text before and after another one, as two calls. Both read their values as
texts in the same way and cut at the same place, the first occurrence. -/

namespace QueryFunctions

namespace Json

/-- What a value is as a text: null is empty, a string is itself, and any other value is its
JSON text. -/
inductive Reads : Json → String → Prop
  | null : Reads .null ""
  | string (s : String) : Reads (.string s) s
  | other {v : Json} (notNull : v ≠ .null) (notString : ∀ s, v ≠ .string s) : Reads v v.text

theorem reads_iff {v : Json} {s : String} : v.Reads s ↔ v.coerced = s := by
  constructor
  · intro h
    cases h with
    | null => rfl
    | string => rfl
    | other notNull notString =>
      cases v with
      | null => exact absurd rfl notNull
      | string s => exact absurd rfl (notString s)
      | bool | number | array | object => rfl
  · rintro rfl
    cases v with
    | null => exact .null
    | string s => exact .string s
    | bool | number | array | object => exact .other (by simp) (by simp)

end Json

namespace Library

variable {v w : Json} {text needle : String}

/-- Both functions cut at the first occurrence: what comes before it, the second text and what
comes after it make up the first text, and no occurrence starts earlier, not even one that
overlaps. Where the second text is empty or does not occur, both parts are empty. -/
theorem substrings_cut_at_first (hv : v.Reads text) (hw : w.Reads needle)
    (limits : Pattern.Limits) : ∃ before after,
      onValues limits "substring_before" [v, w] = .value (.string before) ∧
      onValues limits "substring_after" [v, w] = .value (.string after) ∧
      (needle ≠ "" → needle.toList <:+: text.toList →
        text = before ++ needle ++ after ∧
        ¬ needle.toList <:+: before.toList ++ needle.toList.dropLast) ∧
      (needle = "" ∨ ¬ needle.toList <:+: text.toList → before = "" ∧ after = "") := by
  obtain rfl := Json.reads_iff.mp hv
  obtain rfl := Json.reads_iff.mp hw
  refine ⟨_, _, onValues_substringBefore limits v w, onValues_substringAfter limits v w,
    fun hne hin => ?_, fun hout => ?_⟩
  case refine_1 =>
    have hpart : w.coerced.toList ≠ [] := by rwa [ne_eq, String.toList_eq_nil_iff]
    obtain ⟨hrebuilt, hfirst⟩ := substrings_of_present hpart hin
    refine ⟨?_, by rwa [String.toList_ofList]⟩
    rw [← String.toList_inj, String.toList_append, String.toList_append, String.toList_ofList,
      String.toList_ofList]
    exact hrebuilt
  case refine_2 =>
    rw [← String.toList_eq_nil_iff] at hout
    obtain ⟨hbefore, hafter⟩ := substrings_of_absent hout
    rw [hbefore, hafter]
    exact ⟨rfl, rfl⟩

/-- A text that overlaps itself, in an array that is read as its JSON text. -/
theorem substrings_cut_at_first_overlapping :
    (Json.array [.number (.int 1), .number (.int 1), .number (.int 11)]).Reads "[1,1,11]" ∧
      (Json.string "1,11").Reads "1,11" ∧ ∃ before after,
        onValues {} "substring_before" [.array [.number (.int 1), .number (.int 1),
          .number (.int 11)], .string "1,11"] = .value (.string before) ∧
        "[1,1,11]" = before ++ "1,11" ++ after ∧
        ¬ "1,11".toList <:+: before.toList ++ "1,1".toList := by
  have hv : (Json.array [.number (.int 1), .number (.int 1), .number (.int 11)]).Reads
      "[1,1,11]" := .other (by simp) (by simp)
  obtain ⟨before, after, hbefore, -, hcut, -⟩ :=
    substrings_cut_at_first hv (.string "1,11") {}
  obtain ⟨hrebuilt, hfirst⟩ := hcut (by decide) ⟨"[1,".toList, "]".toList, by decide⟩
  exact ⟨hv, .string _, before, after, hbefore, hrebuilt, hfirst⟩

end Library

end QueryFunctions
