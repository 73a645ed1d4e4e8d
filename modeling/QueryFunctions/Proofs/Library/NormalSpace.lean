import Mathlib.Data.List.Chain
import QueryFunctions.Proofs.Library.Words

/-! Texts with their space normalized. They are words with one space between them; since words
hold no blanks, reading such a text again finds the same words. So normalizing twice is
normalizing once, and two texts are normalized alike exactly if they have the same words. -/

namespace QueryFunctions.Library

open Unicode

variable {part rest : List Char} {parts : List (List Char)}

/-! ### Joined words -/

theorem isBlank_space : isBlank ' ' = true := by decide

/-- A list of texts that are words: none is empty or holds a blank. -/
def AreWords (parts : List (List Char)) : Prop := ∀ part ∈ parts, part ≠ [] ∧ Solid part

theorem areWords_words (text : List Char) : AreWords (words text) :=
  fun _ h => solid_of_mem_words h

theorem words_of_isWord (hne : part ≠ []) (h : Solid part) : words part = [part] := by
  rw [words_of_solid h]
  simpa using hne

/-- Words that are joined by spaces are found again. -/
theorem words_intercalate (h : AreWords parts) : words ([' '].intercalate parts) = parts := by
  induction parts with
  | nil => rfl
  | cons part parts ih =>
    obtain ⟨⟨hne, hsolid⟩, hparts⟩ := List.forall_mem_cons.mp h
    cases parts with
    | nil => rw [List.intercalate_singleton, words_of_isWord hne hsolid]
    | cons next parts =>
      rw [List.intercalate_cons_cons, List.append_assoc, List.singleton_append,
        words_append_cons hsolid isBlank_space, ← words_of_solid hsolid,
        words_of_isWord hne hsolid, ih hparts, List.singleton_append]

theorem words_normalizeSpace (text : List Char) : words (normalizeSpace text) = words text :=
  words_intercalate (areWords_words text)

/-! ### The normal form -/

/-- A text with single spaces and no other blanks, neither of them at an end. -/
structure Spaced (text : List Char) : Prop where
  first : ∀ c, text.head? = some c → isBlank c = false
  last : ∀ c, text.getLast? = some c → isBlank c = false
  space : ∀ c ∈ text, isBlank c = true → c = ' '
  apart : text.IsChain fun c d => isBlank c = false ∨ isBlank d = false

theorem spaced_of_solid (h : Solid part) : Spaced part where
  first c hc := h c (List.mem_of_head? hc)
  last c hc := h c (List.mem_of_getLast? hc)
  space c hc hblank := by
    rw [h c hc] at hblank
    cases hblank
  apart := (List.pairwise_of_forall_mem_list fun c hc _ _ => .inl (h c hc)).isChain

theorem Spaced.word_append (hne : part ≠ []) (h : Solid part) (hrest : Spaced rest)
    (hrestne : rest ≠ []) : Spaced (part ++ [' '] ++ rest) where
  first c hc := by
    rw [List.append_assoc, List.head?_append_of_ne_nil _ hne] at hc
    exact (spaced_of_solid h).first c hc
  last c hc := by
    rw [List.getLast?_append_of_ne_nil _ hrestne] at hc
    exact hrest.last c hc
  space c hc hblank := by
    rcases List.mem_append.mp hc with hword | hmem
    · rcases List.mem_append.mp hword with hpart | hspace
      · exact (spaced_of_solid h).space c hpart hblank
      · exact List.mem_singleton.mp hspace
    · exact hrest.space c hmem hblank
  apart := by
    rw [List.append_assoc]
    refine List.isChain_append.mpr ⟨(spaced_of_solid h).apart, ?_, ?_⟩
    · exact List.isChain_cons.mpr ⟨fun c hc => .inr (hrest.first c hc), hrest.apart⟩
    · exact fun c hc _ _ => .inl (h c (List.mem_of_getLast? hc))

theorem spaced_intercalate (h : AreWords parts) : Spaced ([' '].intercalate parts) := by
  induction parts with
  | nil => exact spaced_of_solid (by simp [Solid])
  | cons part parts ih =>
    obtain ⟨⟨hne, hsolid⟩, hparts⟩ := List.forall_mem_cons.mp h
    cases parts with
    | nil =>
      rw [List.intercalate_singleton]
      exact spaced_of_solid hsolid
    | cons next parts =>
      -- What follows is not empty, for it has words.
      have hrestne : [' '].intercalate (next :: parts) ≠ [] := by
        intro hempty
        have hfound := words_intercalate hparts
        rw [hempty] at hfound
        cases hfound
      rw [List.intercalate_cons_cons]
      exact (ih hparts).word_append hne hsolid hrestne

theorem spaced_normalizeSpace (text : List Char) : Spaced (normalizeSpace text) :=
  spaced_intercalate (areWords_words text)

/-! ### Calls -/

/-- The words of a text with spaces between them. -/
def spacedText (text : String) : String := " ".intercalate (wordTexts text)

theorem spacedText_eq (text : String) :
    spacedText text = String.ofList (normalizeSpace text.toList) :=
  intercalate_ofList [' '] _

theorem wordTexts_spacedText (text : String) : wordTexts (spacedText text) = wordTexts text := by
  rw [spacedText_eq, wordTexts, String.toList_ofList, words_normalizeSpace, wordTexts]

/-- Two texts with the same words are normalized alike, and no others. -/
theorem spacedText_eq_iff {text other : String} :
    spacedText text = spacedText other ↔ wordTexts text = wordTexts other := by
  constructor
  · intro h
    rw [← wordTexts_spacedText text, h, wordTexts_spacedText]
  · exact fun h => congrArg (" ".intercalate ·) h

theorem ofStrings_inj {texts others : List String} :
    Json.ofStrings texts = Json.ofStrings others ↔ texts = others := by
  rw [Json.ofStrings, Json.ofStrings, Json.array.injEq]
  exact List.map_inj_right fun _ _ => Json.string.inj

/-- Normalizing the space of a text yields a normal form. The result has single spaces between its
words and no other blanks, and it has the same words as the text. Normalizing it once more changes
nothing, and two texts have the same result exactly if they have the same words. -/
theorem space_normalized (limits : Pattern.Limits) (text : String) :
    ∃ normal tokens,
      onTexts limits "normalize_space" [text] = .value (.string normal) ∧
      Spaced normal.toList ∧
      onTexts limits "tokenize" [text] = .value (.ofStrings tokens) ∧
      onTexts limits "tokenize" [normal] = .value (.ofStrings tokens) ∧
      onTexts limits "normalize_space" [normal] = .value (.string normal) ∧
      ∀ other,
        onTexts limits "normalize_space" [other] = onTexts limits "normalize_space" [text] ↔
          onTexts limits "tokenize" [other] = onTexts limits "tokenize" [text] := by
  have hnormalize (text : String) :
      onTexts limits "normalize_space" [text] = .value (.string (spacedText text)) :=
    onTexts_normalizeSpace limits text
  refine ⟨spacedText text, wordTexts text, hnormalize text, ?_,
    onTexts_tokenize_words limits text, ?_, ?_, fun other => ?_⟩
  · rw [spacedText_eq, String.toList_ofList]
    exact spaced_normalizeSpace text.toList
  · rw [onTexts_tokenize_words, wordTexts_spacedText]
  · rw [hnormalize, spacedText_eq_iff.mpr (wordTexts_spacedText text)]
  · rw [hnormalize, hnormalize, onTexts_tokenize_words, onTexts_tokenize_words,
      Outcome.value.injEq, Outcome.value.injEq, Json.string.injEq, spacedText_eq_iff,
      ofStrings_inj]

end QueryFunctions.Library
