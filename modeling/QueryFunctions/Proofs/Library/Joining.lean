import QueryFunctions.Proofs.Library.LiteralCalls

/-! Texts that are joined and cut again. Cutting at a literal pattern undoes joining by it, if the
parts share no character with it: then it occurs first right after the first part, whatever parts
are empty and however the copies of it overlap, and the rest is cut as if it stood alone. -/

namespace QueryFunctions.Library

open Pattern

variable {sep part rest : List Char}

theorem not_prefix_drop_append (hsep : sep ≠ []) (hapart : ∀ c ∈ part, c ∉ sep) :
    ∀ j, j < part.length → ¬ sep <+: (part ++ rest).drop j := by
  rintro j hj ⟨later, hlater⟩
  obtain ⟨c, more, rfl⟩ := List.exists_cons_of_ne_nil hsep
  rw [List.drop_append_of_le_length hj.le, List.drop_eq_getElem_cons hj] at hlater
  obtain ⟨rfl, -⟩ := List.cons.inj hlater
  exact hapart _ (List.getElem_mem hj) List.mem_cons_self

theorem not_infix_of_apart (hsep : sep ≠ []) (hapart : ∀ c ∈ part, c ∉ sep) :
    ¬ sep <:+: part := by
  intro hin
  obtain ⟨c, more, rfl⟩ := List.exists_cons_of_ne_nil hsep
  exact hapart c (hin.subset List.mem_cons_self) List.mem_cons_self

theorem cut_append_sep (hsep : sep ≠ []) (hapart : ∀ c ∈ part, c ∉ sep) (rest : List Char) :
    substringBefore (part ++ sep ++ rest) sep = part ∧
      substringAfter (part ++ sep ++ rest) sep = rest := by
  have hk : part.length ≤ (part ++ sep ++ rest).length := by simp
  have here : sep <+: (part ++ sep ++ rest).drop part.length := by
    rw [List.append_assoc, List.drop_left]
    exact List.prefix_append sep rest
  have first : ∀ j, j < part.length → ¬ sep <+: (part ++ sep ++ rest).drop j := by
    rw [List.append_assoc]
    exact not_prefix_drop_append hsep hapart
  rw [substringBefore_of_first hsep hk here first, substringAfter_of_first hsep hk here first,
    ← List.length_append, List.drop_left, List.append_assoc, List.take_left]
  exact ⟨rfl, rfl⟩

/-- The gaps between the separators are the parts that have been joined. -/
theorem gapsAround_intercalate {parts : List (List Char)} (hsep : sep ≠ []) (hne : parts ≠ [])
    (hapart : ∀ part ∈ parts, ∀ c ∈ part, c ∉ sep) {found : List Occurrence}
    (h : LeftmostFrom (.ofText sep) 0 (sep.intercalate parts) 0 found) :
    gapsAround (sep.intercalate parts) 0 found = parts := by
  induction parts generalizing found with
  | nil => exact absurd rfl hne
  | cons part parts ih =>
    obtain ⟨hpart, hparts⟩ := List.forall_mem_cons.mp hapart
    cases parts with
    | nil =>
      rw [List.intercalate_singleton] at h ⊢
      rw [(found_eq_nil_literal h).mpr (not_infix_of_apart hsep hpart)]
      rfl
    | cons next parts =>
      obtain ⟨later, hlater, -⟩ := (Expr.ofText sep).segments_leftmost 0
        (sep.intercalate (next :: parts)) fun k _ => emptyAt_ofText.not.mpr hsep
      have hrest := ih (List.cons_ne_nil next parts) hparts hlater
      rw [List.intercalate_cons_cons] at h ⊢
      obtain ⟨hbefore, hafter⟩ := cut_append_sep hsep hpart (sep.intercalate (next :: parts))
      have hin : sep <:+: part ++ sep ++ sep.intercalate (next :: parts) :=
        List.infix_append part sep _
      rw [← hafter] at hlater
      rw [literal_tokenize_step hsep hin h hlater, hbefore, hafter, hrest]

/-- Cutting at a literal pattern gives back the parts that have been joined by it, empty ones at
the ends and in the middle included, if none of them shares a character with the pattern. -/
theorem tokenize_intercalate {limits : Limits} {sep flags : String} {set : FlagSet}
    {compiled : Compiled} {parts : List String} (hflags : FlagSet.parse flags = .ok set)
    (hq : 'q' ∈ flags.toList) (hi : 'i' ∉ flags.toList)
    (hcompile : compile set limits sep = .ok compiled) (hsep : sep ≠ "") (hne : parts ≠ [])
    (hapart : ∀ part ∈ parts, ∀ c ∈ part.toList, c ∉ sep.toList) :
    onTexts limits "tokenize" [sep.intercalate parts, sep, flags] = .value (.ofStrings parts) := by
  obtain ⟨found, hgo, hfound⟩ := literal_goBy hflags (FlagSet.literal_of_mem hflags hq)
    (FlagSet.ignoreCase_of_not_mem hflags hi) hcompile hsep (sep.intercalate parts)
  have hgaps : gapsAround (sep.intercalate parts).toList 0 found = parts.map String.toList := by
    rw [String.toList_intercalate] at hfound ⊢
    refine gapsAround_intercalate ?_ ?_ ?_ hfound
    · rwa [ne_eq, String.toList_eq_nil_iff]
    · rwa [ne_eq, List.map_eq_nil_iff]
    · intro part hpart
      obtain ⟨text, htext, rfl⟩ := List.mem_map.mp hpart
      exact hapart text htext
  refine hgo.tokenize_eq.trans ?_
  rw [hgaps, List.map_map]
  simp

/-- Empty parts, between which the copies of the separator overlap. -/
theorem tokenize_intercalate_overlapping :
    onTexts {} "tokenize" ["aaaabaa", "aa", "mq"] =
      .value (.ofStrings ["", "", "b", ""]) := by
  have hcheck : (match compile { multiLine := true, literal := true } {} "aa" with
      | .ok _ => true
      | .error _ => false) = true := by decide +kernel
  cases hcompile : compile { multiLine := true, literal := true } {} "aa" with
  | error refusal => rw [hcompile] at hcheck; cases hcheck
  | ok compiled =>
    have hflags : FlagSet.parse "mq" = .ok { multiLine := true, literal := true } := rfl
    exact @tokenize_intercalate {} "aa" "mq" _ compiled ["", "", "b", ""] hflags (by decide)
      (by decide) hcompile (by decide) (by decide) (by simp)

end QueryFunctions.Library
