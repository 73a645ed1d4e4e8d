import QueryFunctions.Proofs.Library.PatternCalls
import QueryFunctions.Proofs.Pattern.Cutting
import QueryFunctions.Proofs.Pattern.EmptyMatch
import QueryFunctions.Proofs.Pattern.Templates

/-! The three functions with patterns agree on one list of matches. For a pattern that is
bound to a text, whether there is a match, the pieces of the text and the text with its
matches replaced are all told by the leftmost matches; each replacement is made from the
groups of its own match. -/

namespace QueryFunctions.Pattern

/-! ### Gaps -/

variable {text : List Char}

theorem gapsAround_ne_nil (i : Nat) (os : List Occurrence) : gapsAround text i os ≠ [] := by
  cases os <;> simp [gapsAround]

theorem length_gapsAround (i : Nat) (os : List Occurrence) :
    (gapsAround text i os).length = os.length + 1 := by
  induction os generalizing i with
  | nil => rfl
  | cons o os ih => rw [gapsAround, List.length_cons, ih, List.length_cons]

/-- Gaps with the same text between any two are joined by it. -/
theorem weave_const (part : List Char) (i : Nat) (os : List Occurrence) :
    weave (gapsAround text i os) (os.map fun _ => part) =
      part.intercalate (gapsAround text i os) := by
  induction os generalizing i with
  | nil => simp [gapsAround, weave]
  | cons o os ih =>
    rw [gapsAround, List.map_cons, weave, ih,
      List.intercalate_cons_of_ne_nil (gapsAround_ne_nil _ _)]

end QueryFunctions.Pattern

namespace QueryFunctions.Library

open Pattern

/-! ### One list of matches -/

/-- The functions with patterns go by one list of matches of a text. -/
structure GoBy (limits : Limits) (text pattern : String) (flags : Option String)
    (compiled : Compiled) (found : List Occurrence) : Prop where
  /-- The matches are those of the pattern from left to right, none of them empty. -/
  leftmost : LeftmostFrom compiled.expr compiled.groupCount text.toList 0 found
  /-- No two of them overlap. -/
  apart : found.Pairwise fun a b => a.stop ≤ b.start
  /-- The groups of a match lie within it. -/
  captured : ∀ o ∈ found, ∀ i j, some (i, j) ∈ o.captures → o.start ≤ i ∧ i ≤ j ∧ j ≤ o.stop
  matches_eq : onTexts limits "matches" ([text, pattern] ++ flags.toList) =
    .value (.bool !found.isEmpty)
  tokenize_eq : onTexts limits "tokenize" ([text, pattern] ++ flags.toList) =
    .value (.ofStrings ((gapsAround text.toList 0 found).map String.ofList))
  /-- There is one gap more than there are matches, and together they are the text. -/
  length_gaps : (gapsAround text.toList 0 found).length = found.length + 1
  rebuilt : weave (gapsAround text.toList 0 found) (found.map (·.text text.toList)) = text.toList
  replace_eq : ∀ replacement template, compiled.template replacement = .ok template →
    onTexts limits "replace" ([text, pattern, replacement] ++ flags.toList) =
      .value (.string (String.ofList (weave (gapsAround text.toList 0 found)
        (found.map fun o => template.expand (o.groupText text.toList)))))

/-- Groups as they are recorded lie within the match they are recorded for. -/
theorem captured_ofRoute {e : Expr} {text : List Char} {groups i j : Nat}
    {events : List GroupEvent} (h : e.route text i j events) (hj : j ≤ text.length) (a b : Nat)
    (hab : some (a, b) ∈ (Occurrence.ofRoute groups text.length i j events).captures) :
    i ≤ a ∧ a ≤ b ∧ b ≤ j := by
  obtain ⟨n, -, hn⟩ := List.mem_map.mp hab
  exact captureOf_within (e.route_events h).1 (e.route_events h).2 hj hn

variable {limits : Limits} {text pattern : String} {flags : Option String} {compiled : Compiled}

theorem segments_of_bindPattern
    (h : (bindPattern limits pattern (flags.getD "") text).outcome = .value compiled) :
    ∃ found, LeftmostFrom compiled.expr compiled.groupCount text.toList 0 found ∧
      compiled.segments text = .ofOccurrences text.toList 0 found := by
  obtain ⟨set, -, -, hguard⟩ := bindPattern_value.mp h
  refine Expr.segments_leftmost compiled.expr compiled.groupCount text.toList fun k hk hempty => ?_
  have htrue := (compiled.matchesEmptyTextIn_iff text).mpr
    ⟨k, hk, Compiled.foundAt_of_emptyAt hempty⟩
  rw [hguard] at htrue
  exact Bool.false_ne_true htrue

theorem goBy_of_bindPattern
    (h : (bindPattern limits pattern (flags.getD "") text).outcome = .value compiled) :
    ∃ found, GoBy limits text pattern flags compiled found := by
  obtain ⟨found, hfound, hcut⟩ := segments_of_bindPattern h
  refine ⟨found, hfound, hfound.sorted, ?_, ?_, ?_, length_gapsAround 0 found, ?_, ?_⟩
  case refine_1 =>
    intro o ho i j hij
    obtain ⟨-, hstop, events, hroute, heq⟩ := hfound.mem o ho
    rw [heq] at hij
    exact captured_ofRoute hroute hstop i j hij
  case refine_2 =>
    rw [onTexts_matches, h]
    change Outcome.value (Json.bool _) = _
    rw [hcut, Segmentation.isEmpty_rest_ofOccurrences]
  case refine_3 =>
    rw [onTexts_tokenize, h]
    change Outcome.value (Json.ofStrings _) = _
    rw [gapTexts, hcut, Segmentation.gaps_ofOccurrences]
  case refine_4 => exact hfound.weave_texts
  case refine_5 =>
    intro replacement template htemplate
    have hgroups (o : Occurrence) : (o.toMatch text.toList).group = o.groupText text.toList :=
      funext (Occurrence.group_toMatch text.toList o)
    rw [onTexts_replace, h]
    change ((Outcome.ofPattern (compiled.template replacement)).andThen _).within _ = _
    rw [htemplate]
    change Outcome.value (Json.string _) = _
    rw [Compiled.replace, hcut, Segmentation.replace_ofOccurrences]
    simp only [hgroups]

theorem intercalate_ofList (part : List Char) (pieces : List (List Char)) :
    (String.ofList part).intercalate (pieces.map String.ofList) =
      String.ofList (part.intercalate pieces) := by
  rw [← String.toList_inj, String.toList_intercalate, List.map_map]
  simp [Function.comp_def]

/-- Where a template comes to the same text for every match, the pieces are joined by it. -/
theorem GoBy.replace_const {found : List Occurrence} {replacement : String} {template : Template}
    {part : List Char} (h : GoBy limits text pattern flags compiled found)
    (htemplate : compiled.template replacement = .ok template)
    (hpart : ∀ o ∈ found, template.expand (o.groupText text.toList) = part) :
    onTexts limits "replace" ([text, pattern, replacement] ++ flags.toList) =
      .value (.string ((String.ofList part).intercalate
        ((gapsAround text.toList 0 found).map String.ofList))) := by
  rw [h.replace_eq replacement template htemplate, List.map_congr_left hpart, weave_const,
    intercalate_ofList]

/-- Putting a text in the place of every match joins the pieces by it. -/
theorem GoBy.replace_quote {found : List Occurrence}
    (h : GoBy limits text pattern flags compiled found) (part : String) :
    onTexts limits "replace"
      ([text, pattern, String.ofList (Template.quote part.toList)] ++ flags.toList) =
        .value (.string (part.intercalate
          ((gapsAround text.toList 0 found).map String.ofList))) := by
  have htemplate : compiled.template (String.ofList (Template.quote part.toList)) =
      .ok ⟨part.toList.foldr Template.consChar []⟩ := by
    rw [Compiled.template, Template.parse_quote]
  have hreplace := h.replace_const htemplate fun o _ => Template.expand_quote part.toList
  rwa [String.ofList_toList] at hreplace

/-- Putting every match in its own place gives the text back. -/
theorem GoBy.replace_zero {found : List Occurrence}
    (h : GoBy limits text pattern flags compiled found) :
    onTexts limits "replace" ([text, pattern, "$0"] ++ flags.toList) = .value (.string text) := by
  have htemplate : compiled.template "$0" = .ok ⟨[.group 0]⟩ := by
    rw [Compiled.template, Template.parse_zero]
  have hexpand (o : Occurrence) :
      (⟨[.group 0]⟩ : Template).expand (o.groupText text.toList) = o.text text.toList := by
    simp [Template.expand, Template.expandPart, Occurrence.groupText]
  rw [h.replace_eq _ _ htemplate]
  simp only [hexpand, h.rebuilt, String.ofList_toList]

/-- Whenever a pattern is bound to a text, the functions agree on one list of matches. The
pieces joined by a text are what replacing by the quoted text gives, and replacing every
match by itself changes nothing. -/
theorem bound_functions_agree
    (h : (bindPattern limits pattern (flags.getD "") text).outcome = .value compiled) :
    ∃ found, GoBy limits text pattern flags compiled found ∧
      (∀ part : String, ∃ tokens,
        onTexts limits "tokenize" ([text, pattern] ++ flags.toList) =
          .value (.ofStrings tokens) ∧
        onTexts limits "replace"
          ([text, pattern, String.ofList (Template.quote part.toList)] ++ flags.toList) =
            .value (.string (part.intercalate tokens))) ∧
      onTexts limits "replace" ([text, pattern, "$0"] ++ flags.toList) =
        .value (.string text) := by
  obtain ⟨found, hfound⟩ := goBy_of_bindPattern h
  exact ⟨found, hfound, fun part => ⟨_, hfound.tokenize_eq, hfound.replace_quote part⟩,
    hfound.replace_zero⟩

/-- A pattern with a group that takes part in one of its two matches only. -/
theorem bound_functions_agree_optional_group :
    ∃ compiled found, (bindPattern {} "a(b)?" "" "xabcay").outcome = .value compiled ∧
      GoBy {} "xabcay" "a(b)?" none compiled found ∧ found.isEmpty = false := by
  have hcut : (match (bindPattern {} "a(b)?" "" "xabcay").outcome with
      | .value compiled => (compiled.segments "xabcay").rest.length
      | _ => 0) = 2 := by decide +kernel
  cases hbound : (bindPattern {} "a(b)?" "" "xabcay").outcome with
  | value compiled =>
    obtain ⟨found, hfound, -⟩ := @bound_functions_agree {} "xabcay" "a(b)?" none compiled hbound
    refine ⟨compiled, found, rfl, hfound, ?_⟩
    have hmatches := hfound.matches_eq
    rw [onTexts_matches, Option.getD_none, hbound] at hmatches
    rw [hbound] at hcut
    change Outcome.value (Json.bool _) = _ at hmatches
    cases hrest : (compiled.segments "xabcay").rest with
    | nil => simp [hrest] at hcut
    | cons m later => simpa [hrest] using hmatches
  | failure reason => rw [hbound] at hcut; simp at hcut
  | unfinished => rw [hbound] at hcut; simp at hcut

end QueryFunctions.Library
