import Mathlib.Data.List.Basic
import Mathlib.Tactic.SplitIfs
import QueryFunctions.Pattern.Template
import QueryFunctions.Proofs.Pattern.Success

/-! Templates. Those that are read for a pattern refer to its groups only. A backslash before
every backslash and every dollar sign makes a text a template for itself, whatever groups a
pattern has and whatever they come to. -/

namespace QueryFunctions.Pattern

namespace Template

/-! ### Groups -/

/-- The parts refer to groups up to a number only. -/
def Within (last : Nat) (parts : List TemplatePart) : Prop :=
  ∀ index, .group index ∈ parts → index ≤ last

theorem Within.consChar {last : Nat} {parts : List TemplatePart} (h : Within last parts)
    (c : Char) : Within last (consChar c parts) := by
  intro index hindex
  unfold Template.consChar at hindex
  split at hindex
  · exact h index (List.mem_cons_of_mem _ (by simpa using hindex))
  · exact h index (by simpa using hindex)

theorem Within.cons {last index : Nat} {parts : List TemplatePart} (h : Within last parts)
    (hindex : index ≤ last) : Within last (.group index :: parts) := by
  intro n hn
  rcases List.mem_cons.mp hn with heq | hn
  · obtain rfl := TemplatePart.group.inj heq
    exact hindex
  · exact h n hn

/-- A number that is being read is that of a group. -/
def Context.Within (last : Nat) : Context → Prop
  | .number group => group ≤ last
  | _ => True

theorem readPlain_within {last : Nat} {c : Char} {parts : List TemplatePart}
    {go : Context → Except TemplateFault (List TemplatePart)}
    (hgo : ∀ context parts, context.Within last → go context = .ok parts → Within last parts)
    (h : readPlain c go = .ok parts) : Within last parts := by
  unfold readPlain at h
  split at h
  · exact hgo .escape parts trivial h
  · exact hgo .dollar parts trivial h
  · obtain ⟨later, hlater, rfl⟩ := map_ok h
    exact (hgo .plain later trivial hlater).consChar _

theorem readParts_within {names : List (Option String)} (cs : List Char) :
    ∀ (context : Context) (parts : List TemplatePart), context.Within (names.length - 1) →
      readParts names context cs = .ok parts → Within (names.length - 1) parts := by
  induction cs with
  | nil =>
    intro context parts hcontext h
    cases context with
    | plain => obtain rfl := Except.ok.inj h; intro _ hindex; simp at hindex
    | number group =>
      obtain rfl := Except.ok.inj h
      exact Within.cons (fun _ hindex => by simp at hindex) hcontext
    | _ => cases h
  | cons c cs ih =>
    intro context parts hcontext h
    cases context with
    | plain => exact readPlain_within ih h
    | escape =>
      obtain ⟨later, hlater, rfl⟩ := map_ok h
      exact (ih .plain later trivial hlater).consChar c
    | dollar =>
      unfold readParts at h
      split_ifs at h
      · exact ih (.name []) parts trivial h
      · split at h
        · cases h
        · split_ifs at h with hgroup
          exact ih (.number _) parts hgroup h
    | name read =>
      unfold readParts at h
      split_ifs at h
      · dsimp only at h
        split at h
        case h_1 group hnamed =>
          obtain ⟨later, hlater, rfl⟩ := map_ok h
          refine (ih .plain later trivial hlater).cons ?_
          obtain ⟨hlt, -⟩ := List.findIdx?_eq_some_iff_getElem.mp hnamed
          omega
        case h_2 => cases h
      · exact ih (.name (c :: read)) parts trivial h
    | number group =>
      have hended : ∀ parts, (readPlain c fun context => readParts names context cs).map
          (.group group :: ·) = .ok parts → Within (names.length - 1) parts := by
        intro parts h
        obtain ⟨later, hlater, rfl⟩ := map_ok h
        exact (readPlain_within ih hlater).cons hcontext
      unfold readParts at h
      dsimp only at h
      split at h
      · exact hended parts h
      · split_ifs at h with hgroup
        · exact ih (.number _) parts hgroup h
        · exact hended parts h

theorem parse_within {names : List (Option String)} {text : String} {template : Template}
    (h : parse names text = .ok template) : Within (names.length - 1) template.parts := by
  obtain ⟨parts, hparts, rfl⟩ := map_ok h
  exact readParts_within text.toList .plain parts trivial hparts

/-- What a template comes to depends on the groups that it refers to. -/
theorem expand_congr {template : Template} {last : Nat} {first second : Nat → List Char}
    (h : Within last template.parts)
    (hgroups : ∀ index, index ≤ last → first index = second index) :
    template.expand first = template.expand second := by
  unfold expand
  refine List.flatMap_congr fun part hpart => ?_
  cases part with
  | text chars => rfl
  | group index => exact hgroups index (h index hpart)

/-! ### Texts as templates -/

/-- A text with a backslash before every character that has a meaning in templates. -/
def quote (text : List Char) : List Char :=
  text.flatMap fun c => if c = '\\' ∨ c = '$' then ['\\', c] else [c]

variable {names : List (Option String)} {groups : Nat → List Char}

theorem quote_cons (c : Char) (cs : List Char) :
    quote (c :: cs) = if c = '\\' ∨ c = '$' then '\\' :: c :: quote cs else c :: quote cs := by
  unfold quote
  rw [List.flatMap_cons]
  split_ifs <;> rfl

theorem readPlain_of_ne {c : Char} (h : ¬ (c = '\\' ∨ c = '$'))
    (go : Context → Except TemplateFault (List TemplatePart)) :
    readPlain c go = (go .plain).map (consChar c) := by
  rw [not_or] at h
  unfold readPlain
  split <;> simp_all

theorem readParts_quote (text : List Char) :
    readParts names .plain (quote text) = .ok (text.foldr consChar []) := by
  induction text with
  | nil => rfl
  | cons c cs ih =>
    rw [quote_cons]
    split_ifs with hc
    · change readParts names .escape (c :: quote cs) = _
      rw [readParts, ih]
      rfl
    · rw [readParts, readPlain_of_ne hc, ih]
      rfl

theorem expand_consChar (c : Char) (parts : List TemplatePart) :
    expand ⟨consChar c parts⟩ groups = c :: expand ⟨parts⟩ groups := by
  unfold expand consChar
  split <;> rfl

/-- The template of a quoted text comes to the text for every match. -/
theorem expand_quote (text : List Char) :
    expand ⟨text.foldr consChar []⟩ groups = text := by
  induction text with
  | nil => rfl
  | cons c cs ih => rw [List.foldr_cons, expand_consChar, ih]

theorem parse_quote (text : List Char) :
    parse names (String.ofList (quote text)) = .ok ⟨text.foldr consChar []⟩ := by
  rw [parse, String.toList_ofList, readParts_quote]
  rfl

theorem parse_zero : parse names "$0" = .ok ⟨[.group 0]⟩ := by
  change (readParts names .dollar ['0']).map Template.mk = _
  simp [readParts, digit?]
  rfl

end Template

namespace Compiled

variable {compiled : Compiled} {text : String} {template : Template}

theorem template_eq_ok_iff : compiled.template text = .ok template ↔
    Template.parse compiled.groupNames text = .ok template := by
  unfold Compiled.template
  cases hparse : Template.parse compiled.groupNames text <;> simp

theorem template_eq_error_iff {refusal : Refusal} : compiled.template text = .error refusal ↔
    ∃ fault, refusal = .template fault ∧
      Template.parse compiled.groupNames text = .error fault := by
  unfold Compiled.template
  cases hparse : Template.parse compiled.groupNames text <;> simp [eq_comm]

theorem template_ok (h : compiled.template text = .ok template) :
    Template.parse compiled.groupNames text = .ok template :=
  template_eq_ok_iff.mp h

end Compiled

end QueryFunctions.Pattern
