import QueryFunctions.Proofs.Library.Guard
import QueryFunctions.Proofs.Text.Lookup

/-! Words: the stretches of a text between blanks. Reading a text character by character, cutting
it at the matches of the built-in pattern of blanks, and cutting it at those of the same pattern
given by a caller find the same words. Matches of blanks are followed here from one to the next;
where two of them meet, the gap between them is empty and is left out. -/

namespace QueryFunctions.Library

open Pattern Unicode

/-! ### Words of a text -/

def Solid (text : List Char) : Prop := ∀ c ∈ text, isBlank c = false

/-- Characters that are no blanks go to the word being read. -/
theorem wordsFrom_append {part : List Char} (h : Solid part) (word rest : List Char) :
    wordsFrom word (part ++ rest) = wordsFrom (part.reverse ++ word) rest := by
  induction part generalizing word with
  | nil => rfl
  | cons c part ih =>
    obtain ⟨hc, hpart⟩ := List.forall_mem_cons.mp h
    rw [List.cons_append, wordsFrom, if_neg (by simp [hc]), ih hpart, List.reverse_cons,
      List.append_assoc]
    rfl

theorem words_of_solid {part : List Char} (h : Solid part) :
    words part = [part].filter (!·.isEmpty) := by
  have hread := wordsFrom_append h [] []
  rw [List.append_nil, List.append_nil] at hread
  rw [words, hread, wordsFrom, List.reverse_reverse, List.isEmpty_reverse]
  cases part <;> rfl

theorem words_append_cons {part : List Char} {c : Char} (h : Solid part) (hc : isBlank c = true)
    (rest : List Char) :
    words (part ++ c :: rest) = [part].filter (!·.isEmpty) ++ words rest := by
  rw [words, wordsFrom_append h, List.append_nil, wordsFrom, if_pos hc, List.reverse_reverse,
    List.isEmpty_reverse]
  cases part <;> rfl

theorem words_cons {c : Char} (hc : isBlank c = true) (rest : List Char) :
    words (c :: rest) = words rest := by
  have hnil : Solid [] := by simp [Solid]
  simpa using words_append_cons hnil hc rest

theorem words_append_of_blank {part : List Char} (h : ∀ c ∈ part, isBlank c = true)
    (rest : List Char) : words (part ++ rest) = words rest := by
  induction part with
  | nil => rfl
  | cons c part ih =>
    obtain ⟨hc, hpart⟩ := List.forall_mem_cons.mp h
    rw [List.cons_append, words_cons hc, ih hpart]

theorem solid_of_mem_wordsFrom {word text part : List Char} (hword : Solid word)
    (h : part ∈ wordsFrom word text) : part ≠ [] ∧ Solid part := by
  have hended {word : List Char} (hword : Solid word) (hne : ¬ word.isEmpty = true) :
      word.reverse ≠ [] ∧ Solid word.reverse := by
    rw [List.isEmpty_iff] at hne
    exact ⟨by simpa using hne, fun c hc => hword c (List.mem_reverse.mp hc)⟩
  induction text generalizing word with
  | nil =>
    rw [wordsFrom] at h
    split_ifs at h with hempty
    · cases h
    · rw [List.mem_singleton.mp h]
      exact hended hword hempty
  | cons c text ih =>
    have hnil : Solid [] := by simp [Solid]
    rw [wordsFrom] at h
    split_ifs at h with hc hempty
    · exact ih hnil h
    · rcases List.mem_cons.mp h with rfl | h
      · exact hended hword hempty
      · exact ih hnil h
    · exact ih (List.forall_mem_cons.mpr ⟨by simpa using hc, hword⟩) h

theorem solid_of_mem_words {text part : List Char} (h : part ∈ words text) :
    part ≠ [] ∧ Solid part :=
  solid_of_mem_wordsFrom (by simp [Solid]) h

theorem flatten_wordsFrom (word text : List Char) :
    (wordsFrom word text).flatten = word.reverse ++ text.filter (!isBlank ·) := by
  induction text generalizing word with
  | nil => cases word <;> simp [wordsFrom]
  | cons c text ih =>
    rw [wordsFrom]
    split_ifs with hc hword
    · rw [ih, List.isEmpty_iff.mp hword, List.filter_cons_of_neg (by simp [hc])]
    · rw [List.flatten_cons, ih, List.filter_cons_of_neg (by simp [hc])]
      rfl
    · rw [ih, List.filter_cons_of_pos (by simp [hc]), List.reverse_cons, List.append_assoc]
      rfl

/-- The words together are the characters that are no blanks. -/
theorem flatten_words (text : List Char) : (words text).flatten = text.filter (!isBlank ·) :=
  flatten_wordsFrom [] text

/-! ### The pattern of blanks -/

theorem find_index_blank (c : Char) : blank.index.find c.toNat = isBlank c :=
  CodeSet.find_index (by decide) c.toNat

-- The blanks are what the table of properties holds under `White_Space`.
example : binary? "whitespace" = some blank := by decide +kernel

variable {text : List Char} {i j : Nat} {events : List GroupEvent}

/-- A number of steps leads over as many characters, all of which pass the test. -/
theorem copies_step {test : Char → Bool} {n : Nat} :
    (Route.step text test).copies n i j events ↔
      j = i + n ∧ (∀ k, i ≤ k → k < j → ∃ c, text[k]? = some c ∧ test c = true) ∧
        events = [] := by
  induction n generalizing i events with
  | zero =>
    constructor
    · rintro ⟨rfl, -, rfl⟩
      exact ⟨rfl, fun k hik hki => by omega, rfl⟩
    · rintro ⟨rfl, -, rfl⟩
      exact ⟨rfl, trivial, rfl⟩
  | succ n ih =>
    constructor
    · rintro ⟨_, _, later, ⟨hfirst, rfl, rfl⟩, hlater, rfl⟩
      obtain ⟨rfl, hrest, rfl⟩ := ih.mp hlater
      refine ⟨by omega, fun k hik hkj => ?_, rfl⟩
      rcases hik.lt_or_eq with hlt | rfl
      · exact hrest k hlt hkj
      · exact hfirst
    · rintro ⟨rfl, hall, rfl⟩
      have hfirst := hall i (Nat.le_refl i) (by omega)
      have hlater := ih.mpr ⟨show i + (n + 1) = i + 1 + n by omega,
        fun k hik hkj => hall k (by omega) hkj, rfl⟩
      exact ⟨i + 1, [], [], ⟨hfirst, rfl, rfl⟩, hlater, rfl⟩

theorem route_blanks :
    blanks.route text i j events ↔
      i < j ∧ (∀ k, i ≤ k → k < j → ∃ c, text[k]? = some c ∧ isBlank c = true) ∧
        events = [] := by
  have hstep : (Expr.chars blank).route text = .step text isBlank := by
    simp only [Expr.route, find_index_blank]
  have hroute : blanks.route text = Route.repeated 1 none (.step text isBlank) := by
    rw [blanks, Expr.route, hstep]
  rw [hroute]
  constructor
  · rintro ⟨n, hn, -, hcopies⟩
    obtain ⟨rfl, hall, rfl⟩ := copies_step.mp hcopies
    exact ⟨by omega, hall, rfl⟩
  · rintro ⟨hlt, hall, rfl⟩
    exact ⟨j - i, by omega, by simp, copies_step.mpr ⟨by omega, hall, rfl⟩⟩

theorem startsAt_blanks : blanks.StartsAt text i ↔ ∃ c, text[i]? = some c ∧ isBlank c = true := by
  constructor
  · rintro ⟨j, events, h⟩
    obtain ⟨hlt, hall, -⟩ := route_blanks.mp h
    exact hall i (Nat.le_refl i) hlt
  · intro h
    refine ⟨i + 1, [], route_blanks.mpr ⟨by omega, fun k hik hki => ?_, rfl⟩⟩
    obtain rfl : k = i := by omega
    exact h

theorem not_emptyAt_blanks : ¬ blanks.EmptyAt text i := by
  rintro ⟨events, h⟩
  exact Nat.lt_irrefl i (route_blanks.mp h).1

theorem mem_extract {c : Char} :
    c ∈ text.extract i j ↔ ∃ k, i ≤ k ∧ k < j ∧ text[k]? = some c := by
  rw [List.extract_eq_take_drop, List.mem_iff_getElem?]
  constructor
  · rintro ⟨m, hm⟩
    rw [List.getElem?_take] at hm
    split_ifs at hm with hlt
    rw [List.getElem?_drop] at hm
    exact ⟨i + m, by omega, by omega, hm⟩
  · rintro ⟨k, hik, hkj, hk⟩
    refine ⟨k - i, ?_⟩
    rw [List.getElem?_take, if_pos (by omega), List.getElem?_drop, Nat.add_sub_cancel' hik]
    exact hk

/-- A gap that no match starts in has no blanks. -/
theorem solid_extract (h : ∀ k, i ≤ k → k < j → ¬ blanks.StartsAt text k) :
    Solid (text.extract i j) := by
  intro c hc
  obtain ⟨k, hik, hkj, hk⟩ := mem_extract.mp hc
  by_contra hblank
  exact h k hik hkj (startsAt_blanks.mpr ⟨c, hk, by simpa using hblank⟩)

/-- A match is a blank and more blanks. -/
theorem extract_of_route (h : blanks.route text i j events) :
    ∃ c more, text.extract i j = c :: more ∧ isBlank c = true ∧ ∀ c ∈ more, isBlank c = true := by
  obtain ⟨hlt, hall, -⟩ := route_blanks.mp h
  have hblank : ∀ c ∈ text.extract i j, isBlank c = true := by
    intro c hc
    obtain ⟨k, hik, hkj, hk⟩ := mem_extract.mp hc
    obtain ⟨c', hc', hisBlank⟩ := hall k hik hkj
    rwa [Option.some.inj (hk.symm.trans hc')]
  obtain ⟨first, hfirst, -⟩ := hall i (Nat.le_refl i) hlt
  have hmem : first ∈ text.extract i j := mem_extract.mpr ⟨i, Nat.le_refl i, hlt, hfirst⟩
  obtain ⟨c, more, hextract⟩ := List.exists_cons_of_ne_nil (List.ne_nil_of_mem hmem)
  rw [hextract] at hblank
  exact ⟨c, more, hextract, List.forall_mem_cons.mp hblank⟩

/-- The gaps that are not empty, between matches of blanks, are the words. -/
theorem filter_gapsAround {groups : Nat} {os : List Occurrence}
    (h : LeftmostFrom blanks groups text i os) :
    (gapsAround text i os).filter (!·.isEmpty) = words (text.drop i) := by
  induction h with
  | @done i none =>
    have hsolid : Solid (text.drop i) := by
      by_cases hi : i ≤ text.length
      · rw [drop_eq_extract_append hi, List.drop_length, List.append_nil]
        exact solid_extract fun k hik hk => none k hik hk.le
      · rw [List.drop_of_length_le (by omega)]
        simp [Solid]
    rw [words_of_solid hsolid]
    rfl
  | @next i start stop events rest le lt within route first later ih =>
    obtain ⟨c, more, hmatch, hc, hmore⟩ := extract_of_route route
    change (text.extract i start :: gapsAround text stop rest).filter (!·.isEmpty) = _
    calc (text.extract i start :: gapsAround text stop rest).filter (!·.isEmpty)
      _ = [text.extract i start].filter (!·.isEmpty) ++ words (text.drop stop) := by
        rw [← ih, ← List.filter_append]
        rfl
      _ = [text.extract i start].filter (!·.isEmpty) ++ words (more ++ text.drop stop) := by
        rw [words_append_of_blank hmore]
      _ = words (text.extract i start ++ c :: (more ++ text.drop stop)) :=
        (words_append_cons (solid_extract first) hc _).symm
      _ = words (text.drop i) := by
        rw [drop_eq_extract_append le, drop_eq_extract_append lt.le, hmatch]
        rfl

/-! ### Calls -/

def wordTexts (text : String) : List String := (words text.toList).map String.ofList

theorem filter_map_ofList (pieces : List (List Char)) :
    (pieces.map String.ofList).filter (!·.isEmpty) =
      (pieces.filter (!·.isEmpty)).map String.ofList := by
  have hempty (piece : List Char) : (String.ofList piece).isEmpty = piece.isEmpty := by
    cases piece <;> simp
  rw [List.filter_map]
  simp only [Function.comp_def, hempty]

/-- However the matches of blanks are found, the gaps between them that are not empty are the
words. -/
theorem filter_gapTexts {groups : Nat} {text : List Char} {os : List Occurrence}
    (h : LeftmostFrom blanks groups text 0 os) :
    ((gapsAround text 0 os).map String.ofList).filter (!·.isEmpty) =
      (words text).map String.ofList := by
  rw [filter_map_ofList, filter_gapsAround h, List.drop_zero]

theorem blankTokens_eq (text : String) : blankTokens text = wordTexts text := by
  obtain ⟨os, hos, hsegments⟩ :=
    blanks.segments_leftmost 0 text.toList fun _ _ => not_emptyAt_blanks
  rw [blankTokens, gapTexts, hsegments, Segmentation.gaps_ofOccurrences, filter_gapTexts hos]
  rfl

/-- The bounds, the mode and the set of a pattern that repeats a class. -/
def repeatedSet? : Expr → Option (Nat × Option Nat × Bool × CodeSet)
  | .repeated min max greedy (.chars set) => some (min, max, greedy, set)
  | _ => none

theorem eq_of_repeatedSet? {e : Expr} {min : Nat} {max : Option Nat} {greedy : Bool}
    {set : CodeSet} (h : repeatedSet? e = some (min, max, greedy, set)) :
    e = .repeated min max greedy (.chars set) := by
  unfold repeatedSet? at h
  split at h
  · obtain ⟨⟩ := Option.some.inj h
    rfl
  · cases h

/-- The pattern of blanks as a caller writes it. -/
theorem compile_blanks :
    ∃ compiled, compile {} {} "\\s+" = .ok compiled ∧ compiled.expr = blanks := by
  have hread : (compile {} {} "\\s+").toOption.bind (repeatedSet? ·.expr) =
      some (1, none, true, blank) := by decide +kernel
  cases hcompile : compile {} {} "\\s+" with
  | error refusal => rw [hcompile] at hread; cases hread
  | ok compiled =>
    rw [hcompile] at hread
    exact ⟨compiled, rfl, eq_of_repeatedSet? hread⟩

theorem lookup?_blanks : blanks.lookup? = none := by decide +kernel

/-- The guard lets the pattern of blanks pass for every text. -/
theorem bindPattern_blanks (text : String) : ∃ compiled,
    (bindPattern {} "\\s+" ((none : Option String).getD "") text).outcome = .value compiled ∧
      compiled.expr = blanks := by
  obtain ⟨compiled, hcompile, hexpr⟩ := compile_blanks
  refine ⟨compiled, bindPattern_value.mpr ⟨{}, rfl, hcompile, ?_⟩, hexpr⟩
  by_contra hguard
  rw [Bool.not_eq_false, Compiled.matchesEmptyTextIn_iff] at hguard
  obtain ⟨i, hi, hfound⟩ := hguard
  have hexact := Compiled.searchExact (hexpr ▸ lookup?_blanks) text.toList
  rw [hexact i hi, hexpr] at hfound
  exact not_emptyAt_blanks hfound

theorem onTexts_tokenize_words (limits : Limits) (text : String) :
    onTexts limits "tokenize" [text] = .value (.ofStrings (wordTexts text)) := by
  have hresolve : (Environment.standard.withLimits limits).resolve "tokenize" =
      .ok ⟨"tokenize", .ranged 1 3 .string, tokenize⟩ := rfl
  obtain ⟨host, -, hcall⟩ := Environment.onTexts_eq [text] hresolve rfl
  rw [← blankTokens_eq]
  exact hcall

theorem onTexts_normalizeSpace (limits : Limits) (text : String) :
    onTexts limits "normalize_space" [text] =
      .value (.string (" ".intercalate (wordTexts text))) := by
  have hresolve : (Environment.standard.withLimits limits).resolve "normalize_space" =
      .ok ⟨"normalize_space", .exact [.string], normalizeSpaceBody⟩ := rfl
  obtain ⟨host, -, hcall⟩ := Environment.onTexts_eq [text] hresolve rfl
  have hjoined : " ".intercalate (wordTexts text) = String.ofList (normalizeSpace text.toList) :=
    intercalate_ofList [' '] _
  rw [hjoined]
  exact hcall

/-- The three ways to the words of a text find the same ones: tokenizing the text as it is,
tokenizing it by the pattern of blanks with empty pieces left out, and normalizing its space,
which joins them by single spaces. Words are not empty and hold no blanks, and together they are
the text without its blanks. -/
theorem words_found_alike (text : String) :
    ∃ tokens pieces : List String,
      onTexts {} "tokenize" [text] = .value (.ofStrings tokens) ∧
      onTexts {} "tokenize" [text, "\\s+"] = .value (.ofStrings pieces) ∧
      tokens = pieces.filter (!·.isEmpty) ∧
      onTexts {} "normalize_space" [text] = .value (.string (" ".intercalate tokens)) ∧
      (∀ token ∈ tokens, token ≠ "" ∧ ∀ c ∈ token.toList, isBlank c = false) ∧
      String.join tokens = String.ofList (text.toList.filter (!isBlank ·)) := by
  obtain ⟨compiled, hbind, hexpr⟩ := bindPattern_blanks text
  obtain ⟨found, hgo⟩ := goBy_of_bindPattern hbind
  have hpieces := filter_gapTexts (hexpr ▸ hgo.leftmost)
  refine ⟨wordTexts text, _, onTexts_tokenize_words {} text, hgo.tokenize_eq, hpieces.symm,
    onTexts_normalizeSpace {} text, fun token htoken => ?_, ?_⟩
  · obtain ⟨part, hpart, rfl⟩ := List.mem_map.mp htoken
    obtain ⟨hne, hsolid⟩ := solid_of_mem_words hpart
    rw [String.toList_ofList]
    exact ⟨by simpa using hne, hsolid⟩
  · rw [← String.toList_inj, String.toList_join, String.toList_ofList, ← flatten_words, wordTexts,
      List.flatMap_map]
    simp [List.flatMap_id']

end QueryFunctions.Library
