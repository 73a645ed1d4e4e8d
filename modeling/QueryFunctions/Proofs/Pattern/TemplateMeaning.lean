import QueryFunctions.Proofs.Pattern.TemplateGrammar

/-! What templates come to. The main statement is that two templates for a pattern are the same
if they come to the same text whatever the groups come to. One choice of the groups tells all
templates up to a size apart: each group comes to a run of one character between two others,
the run being longer than the templates themselves and different for every group. -/

namespace QueryFunctions.Pattern.Template

/-! ### Spelling elements out -/

/-- What an element comes to, given the texts of the groups. -/
def spell (groups : Nat → List Char) : Element → List Char
  | .char c => [c]
  | .group index => groups index

/-- A template comes to what its elements come to, one after another. -/
theorem expand_eq_flatMap (template : Template) (groups : Nat → List Char) :
    template.expand groups = template.elements.flatMap (spell groups) := by
  rw [expand, elements, List.flatMap_assoc]
  refine List.flatMap_congr fun part _ => ?_
  cases part with
  | text chars => simp [expandPart, TemplatePart.elements, List.flatMap_map, spell]
  | group index => simp [expandPart, TemplatePart.elements, spell]

/-! ### Groups that are told apart -/

/-- A text for a group: a run of `b` between two `a`, longer than `size`, whose length tells
the group. -/
def mark (size index : Nat) : List Char := 'a' :: (List.replicate (size + index) 'b' ++ ['a'])

/-- Two runs that end are the same if what they start is the same. -/
theorem replicate_append_inj {a b : Char} (hne : a ≠ b) {m n : Nat} {rest rest' : List Char}
    (h : List.replicate m b ++ a :: rest = List.replicate n b ++ a :: rest') :
    m = n ∧ rest = rest' := by
  induction m generalizing n with
  | zero =>
    cases n with
    | zero => simpa using h
    | succ n => exact absurd (List.cons.inj h).1 hne
  | succ m ih =>
    cases n with
    | zero => exact absurd (List.cons.inj h).1 hne.symm
    | succ n =>
      obtain ⟨rfl, hrest⟩ := ih (List.cons.inj h).2
      exact ⟨rfl, hrest⟩

/-- Fewer elements than a run is long do not come to a text that starts with the run. -/
theorem spelled_ne_run {size n : Nat} (es : List Element) (hlength : es.length < n)
    (rest : List Char) :
    es.flatMap (spell (mark size)) ≠ List.replicate n 'b' ++ rest := by
  induction es generalizing n with
  | nil =>
    obtain ⟨n, rfl⟩ := Nat.exists_eq_succ_of_ne_zero (Nat.ne_of_gt hlength)
    simp [List.replicate_succ]
  | cons e es ih =>
    obtain ⟨n, rfl⟩ := Nat.exists_eq_succ_of_ne_zero (Nat.ne_of_gt (Nat.zero_lt_of_lt hlength))
    intro h
    cases e with
    | char c => exact ih (Nat.lt_of_succ_lt_succ hlength) (List.cons.inj h).2
    | group index => exact absurd (List.cons.inj h).1 (by decide)

theorem spelled_group (size index : Nat) (es : List Element) :
    (Element.group index :: es).flatMap (spell (mark size)) =
      'a' :: (List.replicate (size + index) 'b' ++ 'a' :: es.flatMap (spell (mark size))) := by
  simp [spell, mark]

/-- A character does not come to the start of a group, whatever follows it. -/
theorem spelled_char_ne_group {size index : Nat} {c : Char} {es es' : List Element}
    (hlength : es.length < size) :
    (Element.char c :: es).flatMap (spell (mark size)) ≠
      (Element.group index :: es').flatMap (spell (mark size)) := by
  rw [spelled_group]
  intro h
  exact spelled_ne_run es (by omega) _ (List.cons.inj h).2

/-- Elements up to a number are determined by what they come to. -/
theorem eq_of_spelled_eq {size : Nat} (es es' : List Element) (hlength : es.length ≤ size)
    (hlength' : es'.length ≤ size)
    (h : es.flatMap (spell (mark size)) = es'.flatMap (spell (mark size))) : es = es' := by
  induction es generalizing es' with
  | nil =>
    cases es' with
    | nil => rfl
    | cons e es' => cases e <;> simp [spell, mark] at h
  | cons e es ih =>
    cases es' with
    | nil => cases e <;> simp [spell, mark] at h
    | cons e' es' =>
      simp only [List.length_cons] at hlength hlength'
      have hstep := ih es' (by omega) (by omega)
      cases e with
      | char c =>
        cases e' with
        | char d =>
          obtain ⟨rfl, hrest⟩ := List.cons.inj h
          rw [hstep hrest]
        | group index => exact absurd h (spelled_char_ne_group (by omega))
      | group index =>
        cases e' with
        | char d => exact absurd h.symm (spelled_char_ne_group (by omega))
        | group index' =>
          rw [spelled_group, spelled_group] at h
          obtain ⟨hrun, hrest⟩ := replicate_append_inj (by decide) (List.cons.inj h).2
          obtain rfl : index = index' := by omega
          rw [hstep hrest]

/-! ### Templates that come to the same -/

/-- The texts of a number of groups, as a text for every index: a group without one and an
index beyond the groups come to nothing. -/
def groupTexts {count : Nat} (groups : Fin count → Option String) (index : Nat) : List Char :=
  if h : index < count then ((groups ⟨index, h⟩).map String.toList).getD [] else []

/-- Merged templates are the same if they come to the same for the marks of a size that
neither of them exceeds. -/
theorem eq_of_expand_mark {template template' : Template} {size : Nat}
    (hmerged : Merged template.parts) (hmerged' : Merged template'.parts)
    (hsize : template.elements.length ≤ size) (hsize' : template'.elements.length ≤ size)
    (h : template.expand (mark size) = template'.expand (mark size)) : template = template' := by
  rw [expand_eq_flatMap, expand_eq_flatMap] at h
  have helements := eq_of_spelled_eq _ _ hsize hsize' h
  calc
    template = ⟨ofElements template.elements⟩ :=
      congrArg Template.mk hmerged.ofElements_elements.symm
    _ = ⟨ofElements template'.elements⟩ := by rw [helements]
    _ = template' := congrArg Template.mk hmerged'.ofElements_elements

/-- Two templates for a pattern are the same if and only if they come to the same text for
every choice of texts for the groups of the pattern, where groups may also have none. -/
theorem eq_iff_forall_expand_eq {compiled : Compiled} {first second : String}
    {template template' : Template} (h : compiled.template first = .ok template)
    (h' : compiled.template second = .ok template') :
    template = template' ↔ ∀ groups : Fin (compiled.groupCount + 1) → Option String,
      template.expand (groupTexts groups) = template'.expand (groupTexts groups) := by
  constructor
  · rintro rfl groups
    rfl
  · intro hexpand
    let size := template.elements.length + template'.elements.length
    let groups : Fin (compiled.groupCount + 1) → Option String :=
      fun index => some (String.ofList (mark size index))
    have hgroups (index : Nat) (hindex : index ≤ compiled.groupCount) :
        groupTexts groups index = mark size index := by
      rw [groupTexts, dif_pos (Nat.lt_succ_of_le hindex)]
      simp [groups]
    have hparse := Compiled.template_ok h
    have hparse' := Compiled.template_ok h'
    refine eq_of_expand_mark (parse_merged hparse) (parse_merged hparse')
      (Nat.le_add_right _ _) (Nat.le_add_left _ _) ?_
    rw [← expand_congr (parse_within hparse) hgroups, hexpand groups,
      expand_congr (parse_within hparse') hgroups]

/-- Three spellings for a pattern with two groups: two of the same template, and one of
another. -/
theorem eq_iff_forall_expand_eq_spellings : ∃ compiled short long swapped,
    compile {} {} "(x)(y)?" = .ok compiled ∧
      compiled.template "$12$2" = .ok short ∧
      compiled.template "$001\\2$2" = .ok long ∧
      compiled.template "$22$1" = .ok swapped ∧
      (∀ groups : Fin (compiled.groupCount + 1) → Option String,
        short.expand (groupTexts groups) = long.expand (groupTexts groups)) ∧
      ∃ groups : Fin (compiled.groupCount + 1) → Option String,
        short.expand (groupTexts groups) ≠ swapped.expand (groupTexts groups) := by
  have hcheck : (match compile {} {} "(x)(y)?" with
      | .ok compiled => decide (compiled.groupNames = [none, none, none])
      | .error _ => false) = true := by decide +kernel
  cases hcompile : compile {} {} "(x)(y)?" with
  | error refusal => rw [hcompile] at hcheck; cases hcheck
  | ok compiled =>
    simp only [hcompile, decide_eq_true_eq] at hcheck
    have hshort : compiled.template "$12$2" = .ok ⟨[.group 1, .text ['2'], .group 2]⟩ := by
      rw [Compiled.template, hcheck]
      rfl
    have hlong : compiled.template "$001\\2$2" = .ok ⟨[.group 1, .text ['2'], .group 2]⟩ := by
      rw [Compiled.template, hcheck]
      rfl
    have hswapped : compiled.template "$22$1" = .ok ⟨[.group 2, .text ['2'], .group 1]⟩ := by
      rw [Compiled.template, hcheck]
      rfl
    have hdiffer := (eq_iff_forall_expand_eq hshort hswapped).not.mp (by decide)
    exact ⟨compiled, _, _, _, rfl, hshort, hlong, hswapped,
      (eq_iff_forall_expand_eq hshort hlong).mp rfl, not_forall.mp hdiffer⟩

end QueryFunctions.Pattern.Template
