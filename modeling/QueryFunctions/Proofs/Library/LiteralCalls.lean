import QueryFunctions.Proofs.Library.Guard
import QueryFunctions.Proofs.Library.Substrings
import QueryFunctions.Proofs.Pattern.LiteralMode

/-! Calls with a literal pattern. They agree with plain search for a text: whether it occurs,
where the text is cut, and what is put in the places of the occurrences. What comes after an
occurrence is cut as if it stood alone, since a text matches in the same way wherever it
stands. -/

namespace QueryFunctions.Pattern

/-! ### Cutting at a text -/

variable {part text : List Char} {groups : Nat}

theorem startsAt_ofText {k : Nat} :
    (Expr.ofText part).StartsAt text k ↔ part <+: text.drop k := by
  simp [Expr.StartsAt, Expr.route_ofText]

theorem emptyAt_ofText {k : Nat} : (Expr.ofText part).EmptyAt text k ↔ part = [] := by
  simp only [Expr.EmptyAt, Expr.route_ofText]
  constructor
  · rintro ⟨_, -, hlength, -⟩
    exact List.eq_nil_of_length_eq_zero (by omega)
  · rintro rfl
    exact ⟨[], List.nil_prefix, rfl, rfl⟩

/-- The rest of a text is cut at a text in the same way wherever it stands. -/
theorem gapsAround_drop {d i k : Nat} {os os' : List Occurrence} (hi : i = d + k)
    (hd : d ≤ text.length) (h : LeftmostFrom (.ofText part) groups text i os)
    (h' : LeftmostFrom (.ofText part) groups (text.drop d) k os') :
    gapsAround text i os = gapsAround (text.drop d) k os' := by
  have hstarts (n : Nat) : (Expr.ofText part).StartsAt (text.drop d) n ↔
      (Expr.ofText part).StartsAt text (d + n) := by
    rw [startsAt_ofText, startsAt_ofText, List.drop_drop]
  induction h generalizing k os' with
  | done none =>
    cases h' with
    | done none' => simp [gapsAround, hi]
    | next le lt within route first later =>
      rw [List.length_drop] at within
      exact absurd ((hstarts _).mp ⟨_, _, route⟩) (none _ (by omega) (by omega))
  | @next i start stop events rest le lt within route first later ih =>
    cases h' with
    | done none' =>
      have hplace : d + (start - d) = start := by omega
      refine absurd ((hstarts (start - d)).mpr ?_) (none' _ (by omega) ?_)
      · rw [hplace]
        exact ⟨_, _, route⟩
      · rw [List.length_drop]
        omega
    | @next _ start' stop' events' rest' le' lt' within' route' first' later' =>
      have hge : ¬ start < d + start' := by
        intro hlt
        refine first' (start - d) (by omega) (by omega) ((hstarts _).mpr ?_)
        rw [show d + (start - d) = start by omega]
        exact ⟨_, _, route⟩
      have hle : ¬ d + start' < start := fun hlt =>
        first (d + start') (by omega) hlt ((hstarts _).mp ⟨_, _, route'⟩)
      obtain rfl : start = d + start' := by omega
      obtain ⟨-, rfl, rfl⟩ := (Expr.route_ofText ..).mp route
      obtain ⟨-, rfl, rfl⟩ := (Expr.route_ofText ..).mp route'
      have hrest := ih (Nat.add_assoc d start' part.length) later'
      change text.extract i (d + start') :: gapsAround text (d + start' + part.length) rest =
        (text.drop d).extract k start' ::
          gapsAround (text.drop d) (start' + part.length) rest'
      rw [hrest, hi]
      simp only [List.extract_eq_take_drop, List.drop_drop]
      rw [Nat.add_sub_add_left]

theorem groupText_ofText {i : Nat} {os : List Occurrence}
    (h : LeftmostFrom (.ofText part) groups text i os) :
    ∀ o ∈ os, o.groupText text 0 = part := by
  intro o ho
  obtain ⟨-, -, events, hroute, -⟩ := h.mem o ho
  obtain ⟨hhere, hstop, -⟩ := (Expr.route_ofText ..).mp hroute
  change text.extract o.start o.stop = part
  rw [List.extract_eq_take_drop, hstop, Nat.add_sub_cancel_left]
  exact (List.prefix_iff_eq_take.mp hhere).symm

end QueryFunctions.Pattern

namespace QueryFunctions.Library

open Pattern

/-! ### Binding a text -/

variable {limits : Limits} {needle flags : String} {set : FlagSet} {compiled : Compiled}

theorem matchesEmptyTextIn_literal (hliteral : set.literal = true)
    (hcase : set.ignoreCase = false) (hcompile : compile set limits needle = .ok compiled)
    (text : String) : compiled.matchesEmptyTextIn text = true ↔ needle = "" := by
  obtain ⟨hexpr, -⟩ := compile_literal hliteral hcase hcompile
  have hsearch : compiled.SearchExact text.toList :=
    Compiled.searchExact (by rw [hexpr, Expr.lookup?_ofText]) _
  rw [Compiled.matchesEmptyTextIn_iff, ← String.toList_eq_nil_iff]
  constructor
  · rintro ⟨i, hi, hfound⟩
    have hempty := (hsearch i hi).mp hfound
    rwa [hexpr, emptyAt_ofText] at hempty
  · intro hnil
    refine ⟨0, Nat.zero_le _, (hsearch 0 (Nat.zero_le _)).mpr ?_⟩
    rwa [hexpr, emptyAt_ofText]

/-- The calls with a text as the pattern go by its leftmost places. -/
theorem literal_goBy (hflags : FlagSet.parse flags = .ok set) (hliteral : set.literal = true)
    (hcase : set.ignoreCase = false) (hcompile : compile set limits needle = .ok compiled)
    (hne : needle ≠ "") (text : String) :
    ∃ found, GoBy limits text needle (some flags) compiled found ∧
      LeftmostFrom (.ofText needle.toList) 0 text.toList 0 found := by
  have hbound : (bindPattern limits needle ((some flags).getD "") text).outcome =
      .value compiled := by
    have hparse : FlagSet.parse ((some flags).getD "") = .ok set := hflags
    rw [bindPattern_of_compile hparse hcompile text,
      if_neg ((matchesEmptyTextIn_literal hliteral hcase hcompile text).not.mpr hne)]
    rfl
  obtain ⟨found, hgo⟩ := goBy_of_bindPattern hbound
  obtain ⟨hexpr, hnames⟩ := compile_literal hliteral hcase hcompile
  have hleftmost := hgo.leftmost
  rw [Compiled.groupCount, hexpr, hnames] at hleftmost
  exact ⟨found, hgo, hleftmost⟩

/-- A text that occurs cuts off what comes before its first place; the rest is cut as if it
stood alone. -/
theorem literal_tokenize_step {text : List Char} {part : List Char} (hne : part ≠ [])
    (hin : part <:+: text) {found later : List Occurrence}
    (h : LeftmostFrom (.ofText part) 0 text 0 found)
    (h' : LeftmostFrom (.ofText part) 0 (substringAfter text part) 0 later) :
    gapsAround text 0 found =
      substringBefore text part :: gapsAround (substringAfter text part) 0 later := by
  obtain ⟨k, hk, here, hfirst⟩ := exists_first hin
  rw [substringBefore_of_first hne hk here hfirst]
  rw [substringAfter_of_first hne hk here hfirst] at h' ⊢
  cases h with
  | done none =>
    exact absurd (startsAt_ofText.mpr here) (none k (Nat.zero_le _) hk)
  | @next _ start stop events rest le lt within route first hrest =>
    have hstart : start = k := by
      refine Nat.le_antisymm (Nat.le_of_not_lt fun hlt => ?_) (Nat.le_of_not_lt fun hlt => ?_)
      · exact first k (Nat.zero_le _) hlt (startsAt_ofText.mpr here)
      · exact hfirst start hlt (startsAt_ofText.mp ⟨_, _, route⟩)
    obtain ⟨-, rfl, rfl⟩ := (Expr.route_ofText ..).mp route
    subst hstart
    have hdrop := gapsAround_drop (Nat.add_zero _).symm within hrest h'
    change text.extract 0 start :: gapsAround text (start + part.length) rest = _
    rw [hdrop, List.extract_eq_take_drop, List.drop_zero, Nat.sub_zero]

theorem found_eq_nil_literal {text part : List Char} {found : List Occurrence}
    (h : LeftmostFrom (.ofText part) 0 text 0 found) : found = [] ↔ ¬ part <:+: text := by
  rw [infix_iff_drop]
  constructor
  · rintro rfl ⟨k, hk, here⟩
    obtain ⟨o, ho, -⟩ := h.covers (Nat.zero_le k) hk (startsAt_ofText.mpr here)
    cases ho
  · intro hout
    refine List.eq_nil_iff_forall_not_mem.mpr fun o ho => hout ?_
    obtain ⟨hlt, hstop, events, hroute, -⟩ := h.mem o ho
    exact ⟨o.start, hlt.le.trans hstop, startsAt_ofText.mp ⟨_, _, hroute⟩⟩

theorem literal_refused (hflags : FlagSet.parse flags = .ok set) (hliteral : set.literal = true)
    (hcase : set.ignoreCase = false) (hcompile : compile set limits "" = .ok compiled)
    (text replacement : String) :
    onTexts limits "matches" [text, "", flags] =
        .failure ⟨.pattern .matchesEmptyText, "matches"⟩ ∧
      onTexts limits "tokenize" [text, "", flags] =
        .failure ⟨.pattern .matchesEmptyText, "tokenize"⟩ ∧
      onTexts limits "replace" [text, "", replacement, flags] =
        .failure ⟨.pattern .matchesEmptyText, "replace"⟩ := by
  have hparse : FlagSet.parse ((some flags).getD "") = .ok set := hflags
  have hrefused := (refused_iff hparse hcompile text).mpr
    ((matchesEmptyTextIn_literal hliteral hcase hcompile text).mpr rfl)
  have hmatches := onTexts_matches limits text "" (some flags)
  have htokenize := onTexts_tokenize limits text "" (some flags)
  have hreplace := onTexts_replace limits text "" (some flags) replacement
  rw [hrefused] at hmatches htokenize hreplace
  exact ⟨hmatches, htokenize, hreplace⟩

section

variable {text : String} {found : List Occurrence}

theorem matches_literal (hgo : GoBy limits text needle (some flags) compiled found)
    (hfound : LeftmostFrom (.ofText needle.toList) 0 text.toList 0 found) :
    onTexts limits "matches" [text, needle, flags] =
      .value (.bool (decide (needle.toList <:+: text.toList))) := by
  have hnil := found_eq_nil_literal hfound
  refine hgo.matches_eq.trans ?_
  by_cases hin : needle.toList <:+: text.toList
  · have hsome : found ≠ [] := fun h => hnil.mp h hin
    simp [hin, hsome]
  · simp [hin, hnil.mpr hin]

theorem tokenize_literal_of_not_infix (hgo : GoBy limits text needle (some flags) compiled found)
    (hfound : LeftmostFrom (.ofText needle.toList) 0 text.toList 0 found)
    (hout : ¬ needle.toList <:+: text.toList) :
    onTexts limits "tokenize" [text, needle, flags] = .value (.ofStrings [text]) := by
  refine hgo.tokenize_eq.trans ?_
  simp [(found_eq_nil_literal hfound).mpr hout, gapsAround]

/-- The pieces joined by the pattern are the text again; joined by what the replacement comes
to for the pattern, they are the text with the occurrences replaced. -/
theorem replace_literal (hgo : GoBy limits text needle (some flags) compiled found)
    (hfound : LeftmostFrom (.ofText needle.toList) 0 text.toList 0 found) {replacement : String}
    {template : Template} (htemplate : compiled.template replacement = .ok template)
    (hwithin : Template.Within 0 template.parts) :
    ∃ tokens, onTexts limits "tokenize" [text, needle, flags] = .value (.ofStrings tokens) ∧
      needle.intercalate tokens = text ∧
      onTexts limits "replace" [text, needle, replacement, flags] =
        .value (.string
          ((String.ofList (template.expand fun _ => needle.toList)).intercalate tokens)) := by
  have hgroups := groupText_ofText hfound
  refine ⟨_, hgo.tokenize_eq, ?_, ?_⟩
  · have htexts : ∀ o ∈ found, o.text text.toList = needle.toList := hgroups
    have hbuilt := hgo.rebuilt
    rw [List.map_congr_left htexts, weave_const] at hbuilt
    rw [← String.ofList_toList (s := needle), intercalate_ofList, hbuilt, String.ofList_toList]
  · refine hgo.replace_const htemplate fun o ho => Template.expand_congr hwithin ?_
    intro index hindex
    rw [Nat.le_zero.mp hindex]
    exact hgroups o ho

end

/-- A pattern under the flag for literal ones, and without the one that ignores case, is
searched for as it stands. It matches where it occurs; the text is cut at its first place and
then the rest of the text; and in the place of every occurrence the replacement is put, whose
only group is the whole match. The empty pattern is refused. -/
theorem literal_mode_is_search (hflags : FlagSet.parse flags = .ok set)
    (hq : 'q' ∈ flags.toList) (hi : 'i' ∉ flags.toList)
    (hcompile : compile set limits needle = .ok compiled) (text : String) :
    (needle ≠ "" →
      onTexts limits "matches" [text, needle, flags] =
        .value (.bool (decide (needle.toList <:+: text.toList))) ∧
      (needle.toList <:+: text.toList → ∃ before after tokens,
        onTexts limits "substring_before" [text, needle] = .value (.string before) ∧
        onTexts limits "substring_after" [text, needle] = .value (.string after) ∧
        onTexts limits "tokenize" [after, needle, flags] = .value (.ofStrings tokens) ∧
        onTexts limits "tokenize" [text, needle, flags] =
          .value (.ofStrings (before :: tokens))) ∧
      (¬ needle.toList <:+: text.toList →
        onTexts limits "tokenize" [text, needle, flags] = .value (.ofStrings [text])) ∧
      ∀ replacement template, compiled.template replacement = .ok template →
        (∀ index, .group index ∈ template.parts → index = 0) ∧
        ∃ tokens,
          onTexts limits "tokenize" [text, needle, flags] = .value (.ofStrings tokens) ∧
          needle.intercalate tokens = text ∧
          onTexts limits "replace" [text, needle, replacement, flags] =
            .value (.string
              ((String.ofList (template.expand fun _ => needle.toList)).intercalate tokens))) ∧
    (needle = "" → ∀ replacement,
      onTexts limits "matches" [text, needle, flags] =
        .failure ⟨.pattern .matchesEmptyText, "matches"⟩ ∧
      onTexts limits "tokenize" [text, needle, flags] =
        .failure ⟨.pattern .matchesEmptyText, "tokenize"⟩ ∧
      onTexts limits "replace" [text, needle, replacement, flags] =
        .failure ⟨.pattern .matchesEmptyText, "replace"⟩) := by
  have hliteral := FlagSet.literal_of_mem hflags hq
  have hcase := FlagSet.ignoreCase_of_not_mem hflags hi
  refine ⟨fun hne => ?_, ?_⟩
  case refine_2 =>
    rintro rfl replacement
    exact literal_refused hflags hliteral hcase hcompile text replacement
  have hpart : needle.toList ≠ [] := by rwa [ne_eq, String.toList_eq_nil_iff]
  obtain ⟨found, hgo, hfound⟩ := literal_goBy hflags hliteral hcase hcompile hne text
  refine ⟨matches_literal hgo hfound, fun hin => ?_, tokenize_literal_of_not_infix hgo hfound,
    fun replacement template htemplate => ?_⟩
  case refine_1 =>
    obtain ⟨later, hlater, hrest⟩ := literal_goBy hflags hliteral hcase hcompile hne
      (String.ofList (substringAfter text.toList needle.toList))
    rw [String.toList_ofList] at hrest
    refine ⟨_, _, _, onTexts_substringBefore limits text needle,
      onTexts_substringAfter limits text needle, hlater.tokenize_eq, hgo.tokenize_eq.trans ?_⟩
    rw [literal_tokenize_step hpart hin hfound hrest, String.toList_ofList, List.map_cons]
  case refine_2 =>
    have hwithin : Template.Within 0 template.parts := by
      have hparse := Compiled.template_ok htemplate
      rw [(compile_literal hliteral hcase hcompile).2] at hparse
      exact Template.parse_within hparse
    exact ⟨fun index hindex => Nat.le_zero.mp (hwithin index hindex),
      replace_literal hgo hfound htemplate hwithin⟩

/-- A text of characters with a meaning in patterns, whose occurrences overlap. -/
theorem literal_mode_is_search_overlapping :
    onTexts {} "matches" ["x$.$.$", "$.$", "mq"] = .value (.bool true) ∧
      ∃ before after tokens,
        onTexts {} "substring_before" ["x$.$.$", "$.$"] = .value (.string before) ∧
        onTexts {} "substring_after" ["x$.$.$", "$.$"] = .value (.string after) ∧
        onTexts {} "tokenize" [after, "$.$", "mq"] = .value (.ofStrings tokens) ∧
        onTexts {} "tokenize" ["x$.$.$", "$.$", "mq"] =
          .value (.ofStrings (before :: tokens)) := by
  have hcheck : (match compile { multiLine := true, literal := true } {} "$.$" with
      | .ok _ => true
      | .error _ => false) = true := by decide +kernel
  have hin : "$.$".toList <:+: "x$.$.$".toList := by decide
  cases hcompile : compile { multiLine := true, literal := true } {} "$.$" with
  | error refusal => rw [hcompile] at hcheck; cases hcheck
  | ok compiled =>
    obtain ⟨hmatches, htokens, -⟩ := (literal_mode_is_search (rfl : FlagSet.parse "mq" = _)
      (by decide) (by decide) hcompile "x$.$.$").1 (by decide)
    rw [decide_eq_true hin] at hmatches
    exact ⟨hmatches, htokens hin⟩

end QueryFunctions.Library
