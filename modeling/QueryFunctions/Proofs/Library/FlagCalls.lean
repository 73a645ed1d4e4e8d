import QueryFunctions.Proofs.Library.Guard
import QueryFunctions.Proofs.Pattern.LeadingFlags

/-! Calls with flags. The flags beside a pattern do what the same letters do in a group at the
start of it: no call tells the two apart, neither by its result nor by its failure. Nor does a
call tell the order in which the flags are given. -/

namespace QueryFunctions.Library

open Pattern

variable {limits : Limits} {pattern pattern' : String} {flags flags' : Option String}
  {set set' : FlagSet} {compiled compiled' : Compiled}

/-- Patterns that mean the same and have the same groups are not told apart. -/
theorem onTexts_congr (hflags : FlagSet.parse (flags.getD "") = .ok set)
    (hcompile : compile set limits pattern = .ok compiled)
    (hflags' : FlagSet.parse (flags'.getD "") = .ok set')
    (hcompile' : compile set' limits pattern' = .ok compiled')
    (hexpr : compiled'.expr = compiled.expr) (hnames : compiled'.groupNames = compiled.groupNames)
    (text replacement : String) :
    onTexts limits "matches" ([text, pattern] ++ flags.toList) =
        onTexts limits "matches" ([text, pattern'] ++ flags'.toList) ∧
      onTexts limits "tokenize" ([text, pattern] ++ flags.toList) =
        onTexts limits "tokenize" ([text, pattern'] ++ flags'.toList) ∧
      onTexts limits "replace" ([text, pattern, replacement] ++ flags.toList) =
        onTexts limits "replace" ([text, pattern', replacement] ++ flags'.toList) := by
  have hbind := bindPattern_of_compile hflags hcompile text
  have hbind' := bindPattern_of_compile hflags' hcompile' text
  obtain ⟨source, expr, names⟩ := compiled
  obtain ⟨source', expr', names'⟩ := compiled'
  obtain rfl : expr' = expr := hexpr
  obtain rfl : names' = names := hnames
  rw [onTexts_matches, onTexts_matches, onTexts_tokenize, onTexts_tokenize, onTexts_replace,
    onTexts_replace, hbind, hbind']
  change _ ∧ _ ∧ _
  have hguard : (⟨source', expr', names'⟩ : Compiled).matchesEmptyTextIn text =
      (⟨source, expr', names'⟩ : Compiled).matchesEmptyTextIn text := rfl
  rw [hguard]
  split_ifs
  · exact ⟨rfl, rfl, rfl⟩
  · exact ⟨rfl, rfl, rfl⟩

/-- A set of flags beside a pattern and the same flags in a group at its start come to the
same in every call. -/
theorem flags_eq_inline {letters flags pattern : String} {set : FlagSet}
    {compiled compiled' : Compiled} (hflags : FlagSet.parse flags = .ok set)
    (hletters : FlagSet.parse letters = .ok set) (hq : 'q' ∉ letters.toList) (hne : letters ≠ "")
    (hcompile : compile set limits pattern = .ok compiled)
    (hinline : compile {} limits ("(?" ++ letters ++ ")" ++ pattern) = .ok compiled')
    (text replacement : String) :
    onTexts limits "matches" [text, pattern, flags] =
        onTexts limits "matches" [text, "(?" ++ letters ++ ")" ++ pattern] ∧
      onTexts limits "tokenize" [text, pattern, flags] =
        onTexts limits "tokenize" [text, "(?" ++ letters ++ ")" ++ pattern] ∧
      onTexts limits "replace" [text, pattern, replacement, flags] =
        onTexts limits "replace" [text, "(?" ++ letters ++ ")" ++ pattern, replacement] := by
  have hliteral : set.literal = false := by
    have hhas : set.literal = letters.toList.contains 'q' := FlagSet.has_parse hletters 'q'
    simpa [hhas] using hq
  obtain ⟨hexpr, hnames⟩ := compile_ok hcompile
  obtain ⟨hexpr', hnames'⟩ := compile_ok hinline
  have hsource : ("(?" ++ letters ++ ")" ++ pattern).toList =
      withFlags letters.toList pattern.toList := by
    simp [withFlags]
  rw [FlagSet.source, hliteral] at hexpr
  rw [FlagSet.source, hsource] at hexpr'
  have hsame : compiled'.expr = compiled.expr :=
    exprOf_withFlags hletters hq (by rwa [ne_eq, String.toList_eq_nil_iff]) hexpr hexpr'
  have hparse : FlagSet.parse ((some flags).getD "") = .ok set := hflags
  have hnone : FlagSet.parse ((none : Option String).getD "") = .ok {} := rfl
  exact onTexts_congr hparse hcompile hnone hinline hsame (by rw [hnames, hnames', hsame])
    text replacement

/-- Both letters at once, on a pattern in which each of them matters. -/
theorem flags_eq_inline_two : ∃ compiled compiled',
    compile { dotAll := true, multiLine := true } {} "^.b$" = .ok compiled ∧
      compile {} {} "(?ms)^.b$" = .ok compiled' ∧
      onTexts {} "replace" ["a\nxb\n\nb", "^.b$", "-", "sm"] =
        onTexts {} "replace" ["a\nxb\n\nb", "(?ms)^.b$", "-"] := by
  have hcheck : (match compile { dotAll := true, multiLine := true } {} "^.b$",
      compile {} {} "(?ms)^.b$" with
      | .ok _, .ok _ => true
      | _, _ => false) = true := by decide +kernel
  cases hcompile : compile { dotAll := true, multiLine := true } {} "^.b$" with
  | error refusal => rw [hcompile] at hcheck; cases hcheck
  | ok compiled =>
    cases hinline : compile {} {} "(?ms)^.b$" with
    | error refusal => rw [hcompile, hinline] at hcheck; cases hcheck
    | ok compiled' =>
      have hagree := flags_eq_inline (rfl : FlagSet.parse "sm" = _)
        (rfl : FlagSet.parse "ms" = _) (by decide) (by decide) hcompile hinline
        "a\nxb\n\nb" "-"
      exact ⟨compiled, compiled', rfl, rfl, hagree.2.2⟩

/-! ### The order of flags -/

/-- Texts of flags that are read alike are not told apart. -/
theorem onTexts_congr_flags {flags flags' : String}
    (h : FlagSet.parse flags' = FlagSet.parse flags) (limits : Limits)
    (text pattern replacement : String) :
    onTexts limits "matches" [text, pattern, flags'] =
        onTexts limits "matches" [text, pattern, flags] ∧
      onTexts limits "tokenize" [text, pattern, flags'] =
        onTexts limits "tokenize" [text, pattern, flags] ∧
      onTexts limits "replace" [text, pattern, replacement, flags'] =
        onTexts limits "replace" [text, pattern, replacement, flags] := by
  have hbind : bindPattern limits pattern ((some flags').getD "") text =
      bindPattern limits pattern ((some flags).getD "") text := by
    simp only [Option.getD_some, bindPattern, h]
  have hmatches := onTexts_matches limits text pattern (some flags')
  have htokenize := onTexts_tokenize limits text pattern (some flags')
  have hreplace := onTexts_replace limits text pattern (some flags') replacement
  rw [hbind] at hmatches htokenize hreplace
  exact ⟨hmatches.trans (onTexts_matches limits text pattern (some flags)).symm,
    htokenize.trans (onTexts_tokenize limits text pattern (some flags)).symm,
    hreplace.trans (onTexts_replace limits text pattern (some flags) replacement).symm⟩

/-- A text of flags is read exactly if its characters are letters of flags, each of them once,
and then as the set of these flags. Any other text is refused by its first character that is no
such letter or was there before, whatever comes after it. So flags that are read may be given in
any order: they are read as the same set, and no call tells the difference. -/
theorem flags_read_in_any_order (flags : String) :
    ((∃ set, FlagSet.parse flags = .ok set) ↔ FlagSet.Proper flags.toList) ∧
    (∀ set, FlagSet.parse flags = .ok set → set = FlagSet.ofLetters flags.toList) ∧
    (¬ FlagSet.Proper flags.toList → ∃ seen c rest refusal,
      flags.toList = seen ++ c :: rest ∧ FlagSet.Proper seen ∧
      FlagSet.Offends seen c refusal refusal.message ∧
      ∀ later, FlagSet.parse (.ofList (seen ++ c :: later)) = .error refusal) ∧
    (FlagSet.Proper flags.toList → ∀ flags' : String, flags'.toList.Perm flags.toList →
      FlagSet.parse flags' = FlagSet.parse flags ∧
      ∀ (limits : Limits) (text pattern replacement : String),
        onTexts limits "matches" [text, pattern, flags'] =
            onTexts limits "matches" [text, pattern, flags] ∧
          onTexts limits "tokenize" [text, pattern, flags'] =
            onTexts limits "tokenize" [text, pattern, flags] ∧
          onTexts limits "replace" [text, pattern, replacement, flags'] =
            onTexts limits "replace" [text, pattern, replacement, flags]) := by
  refine ⟨⟨?_, ?_⟩, fun set h => (FlagSet.parse_eq_ok_iff.mp h).2, FlagSet.parse_of_not_proper,
    fun hproper flags' hperm => ?_⟩
  case refine_1 =>
    rintro ⟨set, h⟩
    exact (FlagSet.parse_eq_ok_iff.mp h).1
  case refine_2 => exact fun hproper => ⟨_, FlagSet.parse_eq_ok_iff.mpr ⟨hproper, rfl⟩⟩
  case refine_3 =>
    have hread := hproper.parse_perm hperm
    exact ⟨hread, onTexts_congr_flags hread⟩

end QueryFunctions.Library
