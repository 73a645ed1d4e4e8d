import QueryFunctions.Proofs.Pattern.TemplateGrammar

/-! Templates as texts. Every list of parts that a template can have is written as a text with a
backslash before every character and every group by its number, and reading that text gives the
parts back. These lists are the merged ones that refer to groups of the pattern only. -/

namespace QueryFunctions.Pattern

def Element.written : Element → List Char
  | .char c => ['\\', c]
  | .group index => '$' :: Nat.toDigits 10 index

namespace Template

/-- The text of a template that puts a backslash before every character. -/
def written (template : Template) : List Char := template.elements.flatMap Element.written

variable {names : List (Option String)} {es : List Element} {parts : List TemplatePart}
  {last : Nat}

/-! ### Reading what is written -/

/-- A number in decimal is read whole where no digit comes after it. -/
theorem longestNumber_toDigits {index : Nat} {rest : List Char} (hindex : index ≤ last)
    (hrest : ∀ c, rest.head? = some c → c.isDigit = false) :
    LongestNumber last (Nat.toDigits 10 index) rest := by
  refine ⟨Nat.toDigits_ne_nil, fun c hc => Nat.isDigit_of_mem_toDigits (by decide) (by decide) hc,
    ?_, fun more hmore hdigits _ => ?_⟩
  · rwa [decimal, Nat.ofDigitChars_ten_toDigits]
  · cases more with
    | nil => rfl
    | cons d ds =>
      obtain ⟨later, rfl⟩ := hmore
      have hnot := hrest d rfl
      rw [hdigits d List.mem_cons_self] at hnot
      cases hnot

theorem isDigit_head?_written (es : List Element) :
    ∀ c, (es.flatMap Element.written).head? = some c → c.isDigit = false := by
  intro c hc
  cases es with
  | nil => cases hc
  | cons e es =>
    cases e with
    | char d =>
      obtain rfl := Option.some.inj hc
      decide
    | group index =>
      obtain rfl := Option.some.inj hc
      decide

theorem reads_written (h : ∀ index, .group index ∈ es → index ≤ names.length - 1) :
    Reads names (es.flatMap Element.written) es [] := by
  induction es with
  | nil => exact .done
  | cons e es ih =>
    have hrest := ih fun index hindex => h index (List.mem_cons_of_mem _ hindex)
    rw [List.flatMap_cons]
    cases e with
    | char c => exact .next .escaped hrest
    | group index =>
      have hnumber := longestNumber_toDigits (h index List.mem_cons_self) (isDigit_head?_written es)
      have hstarts := Starts.numbered hnumber
      rw [decimal, Nat.ofDigitChars_ten_toDigits] at hstarts
      exact .next hstarts hrest

theorem group_mem_elements {index : Nat} :
    .group index ∈ elements ⟨parts⟩ ↔ .group index ∈ parts := by
  rw [elements, List.mem_flatMap]
  constructor
  · rintro ⟨part, hpart, hindex⟩
    cases part with
    | text chars => simp [TemplatePart.elements] at hindex
    | group index' =>
      obtain rfl : index = index' := by simpa [TemplatePart.elements] using hindex
      exact hpart
  · exact fun h => ⟨_, h, List.mem_singleton_self _⟩

/-- Merged parts with groups of the pattern only are what their text is read as. -/
theorem parse_written (hmerged : Merged parts) (hwithin : Within (names.length - 1) parts) :
    parse names (String.ofList (written ⟨parts⟩)) = .ok ⟨parts⟩ := by
  rw [parse_eq_ok_iff, String.toList_ofList, readParts_eq_ok_iff]
  exact ⟨reads_written fun index hindex => hwithin index (group_mem_elements.mp hindex), hmerged⟩

/-- The parts of templates for a pattern are exactly the lists in which no text is empty, no two
texts are neighbours and all groups are groups of the pattern; each of them is read from the text
that puts a backslash before every character and writes groups by their numbers. -/
theorem template_parts_iff (compiled : Compiled) (parts : List TemplatePart) :
    ((∃ text, compiled.template text = .ok ⟨parts⟩) ↔
      Merged parts ∧ Within compiled.groupCount parts) ∧
    (compiled.template (String.ofList (written ⟨parts⟩)) = .ok ⟨parts⟩ ↔
      Merged parts ∧ Within compiled.groupCount parts) := by
  have hread : ∀ text, compiled.template text = .ok ⟨parts⟩ →
      Merged parts ∧ Within compiled.groupCount parts := by
    intro text htext
    have hparse := Compiled.template_ok htext
    exact ⟨parse_merged hparse, parse_within hparse⟩
  have hwrite : Merged parts ∧ Within compiled.groupCount parts →
      compiled.template (String.ofList (written ⟨parts⟩)) = .ok ⟨parts⟩ := fun h =>
    Compiled.template_eq_ok_iff.mpr (parse_written h.1 h.2)
  exact ⟨⟨fun ⟨text, htext⟩ => hread text htext, fun h => ⟨_, hwrite h⟩⟩, hread _, hwrite⟩

-- The digit after a group of two digits is a text of its own.
example : parse (List.replicate 13 none) "$12\\3\\$$0" =
    .ok ⟨[.group 12, .text ['3', '$'], .group 0]⟩ := rfl

end Template

end QueryFunctions.Pattern
