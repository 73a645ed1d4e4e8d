import Mathlib.Data.List.Infix
import Mathlib.Data.Nat.Find
import QueryFunctions.Library.Strings

/-! The first place of one text in another. A text that occurs in another one stands at a
first place, and there the other is cut: the two pieces with the text between them are the
other again, and no place before is passed over, not even one that overlaps the first. -/

namespace QueryFunctions.Library

variable {needle text : List Char}

/-- A text occurs in another one if the rest from some place on begins with it. -/
theorem infix_iff_drop : needle <:+: text ↔ ∃ k, k ≤ text.length ∧ needle <+: text.drop k := by
  rw [List.infix_iff_prefix_suffix]
  constructor
  · rintro ⟨rest, hhere, hsuffix⟩
    refine ⟨text.length - rest.length, Nat.sub_le _ _, ?_⟩
    rwa [← List.suffix_iff_eq_drop.mp hsuffix]
  · rintro ⟨k, -, hhere⟩
    exact ⟨text.drop k, hhere, List.drop_suffix k text⟩

/-- The first place where a text stands that occurs in another one. -/
theorem exists_first (h : needle <:+: text) : ∃ k, k ≤ text.length ∧ needle <+: text.drop k ∧
    ∀ j, j < k → ¬ needle <+: text.drop j := by
  obtain ⟨k, hk, hhere⟩ := infix_iff_drop.mp h
  have hex : ∃ k, needle <+: text.drop k := ⟨k, hhere⟩
  exact ⟨Nat.find hex, (Nat.find_min' hex hhere).trans hk, Nat.find_spec hex,
    fun j hj => Nat.find_min hex hj⟩

theorem cutAtFirst?_of_first {k : Nat} (hk : k ≤ text.length) (here : needle <+: text.drop k)
    (first : ∀ j, j < k → ¬ needle <+: text.drop j) :
    cutAtFirst? needle text = some (text.take k, text.drop (k + needle.length)) := by
  induction text generalizing k with
  | nil =>
    obtain rfl : k = 0 := by simpa using hk
    obtain rfl : needle = [] := by simpa using here
    rfl
  | cons c cs ih =>
    cases k with
    | zero =>
      have hhere : needle.isPrefixOf (c :: cs) = true := List.isPrefixOf_iff_prefix.mpr here
      rw [cutAtFirst?, if_pos hhere, Nat.zero_add]
      rfl
    | succ k =>
      have hnot : ¬ needle.isPrefixOf (c :: cs) = true := fun h =>
        first 0 (Nat.succ_pos k) (List.isPrefixOf_iff_prefix.mp h)
      have hlater : cutAtFirst? needle cs = some (cs.take k, cs.drop (k + needle.length)) :=
        ih (by simpa using hk) here fun j hj => first (j + 1) (Nat.succ_lt_succ hj)
      rw [cutAtFirst?, if_neg hnot, hlater, Nat.succ_add]
      rfl

variable {k : Nat}

theorem substringBefore_of_first (hne : needle ≠ []) (hk : k ≤ text.length)
    (here : needle <+: text.drop k) (first : ∀ j, j < k → ¬ needle <+: text.drop j) :
    substringBefore text needle = text.take k := by
  unfold substringBefore
  rw [if_neg (by simpa using hne), cutAtFirst?_of_first hk here first]
  rfl

theorem substringAfter_of_first (hne : needle ≠ []) (hk : k ≤ text.length)
    (here : needle <+: text.drop k) (first : ∀ j, j < k → ¬ needle <+: text.drop j) :
    substringAfter text needle = text.drop (k + needle.length) := by
  unfold substringAfter
  rw [if_neg (by simpa using hne), cutAtFirst?_of_first hk here first]
  rfl

theorem cutAtFirst?_eq_none (hout : ¬ needle <:+: text) : cutAtFirst? needle text = none := by
  induction text with
  | nil =>
    have hne : needle ≠ [] := by
      rintro rfl
      exact hout List.nil_infix
    simp [cutAtFirst?, hne]
  | cons c cs ih =>
    have hnot : ¬ needle.isPrefixOf (c :: cs) = true := fun h =>
      hout (List.isPrefixOf_iff_prefix.mp h).isInfix
    have hlater : cutAtFirst? needle cs = none := ih fun h => hout (List.infix_cons h)
    rw [cutAtFirst?, if_neg hnot, hlater]
    rfl

/-- What ends within the first occurrence, before its last character, holds no occurrence: it
would stand at an earlier place. -/
theorem not_infix_before_first (hne : needle ≠ []) (hk : k ≤ text.length)
    (here : needle <+: text.drop k) (first : ∀ j, j < k → ¬ needle <+: text.drop j) :
    ¬ needle <:+: text.take k ++ needle.dropLast := by
  have hstart : text.take k ++ needle.dropLast <+: text := by
    have hdrop : needle.dropLast <+: text.drop k := (List.dropLast_prefix needle).trans here
    have happend := (List.prefix_append_right_inj (text.take k)).mpr hdrop
    rwa [List.take_append_drop] at happend
  intro hin
  obtain ⟨j, -, hj⟩ := infix_iff_drop.mp hin
  have hlength := hj.length_le
  have hpos : 0 < needle.length := List.length_pos_iff.mpr hne
  rw [List.length_drop, List.length_append, List.length_take, List.length_dropLast,
    Nat.min_eq_left hk] at hlength
  exact first j (by omega) (hj.trans (hstart.drop j))

/-- The two pieces around the first occurrence of a text. -/
theorem substrings_of_present (hne : needle ≠ []) (hin : needle <:+: text) :
    text = substringBefore text needle ++ needle ++ substringAfter text needle ∧
      ¬ needle <:+: substringBefore text needle ++ needle.dropLast := by
  obtain ⟨k, hk, here, first⟩ := exists_first hin
  rw [substringBefore_of_first hne hk here first, substringAfter_of_first hne hk here first]
  refine ⟨?_, not_infix_before_first hne hk here first⟩
  obtain ⟨rest, hrest⟩ := here
  have hafter : text.drop (k + needle.length) = rest := by
    rw [← List.drop_drop, ← hrest, List.drop_left]
  rw [hafter, List.append_assoc, hrest, List.take_append_drop]

theorem substrings_of_absent (h : needle = [] ∨ ¬ needle <:+: text) :
    substringBefore text needle = [] ∧ substringAfter text needle = [] := by
  unfold substringBefore substringAfter
  rcases h with rfl | hout
  · exact ⟨rfl, rfl⟩
  · rw [cutAtFirst?_eq_none hout]
    exact ⟨ite_self _, ite_self _⟩

end QueryFunctions.Library
