import QueryFunctions.Proofs.Library.Agreement
import QueryFunctions.Proofs.Pattern.LookFree

/-! The guard against empty matches. A pattern that compiles is refused for a text exactly if
it matches the empty text at some place of it; one that is not refused cuts the text at
matches with characters in them, which bounds the number of pieces. A pattern that is written
without anchors, or taken as a text, is refused for every text or for none. -/

namespace QueryFunctions.Library

open Pattern

variable {limits : Limits} {text pattern : String} {flags : Option String} {set : FlagSet}
  {compiled : Compiled}

theorem bindPattern_of_compile (hflags : FlagSet.parse (flags.getD "") = .ok set)
    (hcompile : compile set limits pattern = .ok compiled) (text : String) :
    (bindPattern limits pattern (flags.getD "") text).outcome =
      .ofPattern (if compiled.matchesEmptyTextIn text then .error .matchesEmptyText
        else .ok compiled) := by
  rw [outcome_bindPattern, hflags, Outcome.ofPattern, Outcome.andThen, hcompile,
    Outcome.ofPattern, Outcome.andThen]

theorem refused_iff (hflags : FlagSet.parse (flags.getD "") = .ok set)
    (hcompile : compile set limits pattern = .ok compiled) (text : String) :
    (bindPattern limits pattern (flags.getD "") text).outcome =
        .failure ⟨.pattern .matchesEmptyText, ""⟩ ↔ compiled.matchesEmptyTextIn text = true := by
  rw [bindPattern_of_compile hflags hcompile text]
  split_ifs with hempty <;> simp [Outcome.ofPattern, hempty]

/-- What the guard lets pass cuts a text at matches with characters, one after another, and
into at most one piece more than the text has characters. -/
theorem goBy_nonempty {found : List Occurrence}
    (h : GoBy limits text pattern flags compiled found) :
    (∀ o ∈ found, o.start < o.stop ∧ o.text text.toList ≠ []) ∧
      found.Pairwise (fun a b => a.start < b.start) ∧
      (gapsAround text.toList 0 found).length ≤ text.length + 1 := by
  have hmem := h.leftmost.mem
  refine ⟨fun o ho => ?_, ?_, ?_⟩
  · obtain ⟨hlt, hstop, -⟩ := hmem o ho
    refine ⟨hlt, fun hnil => ?_⟩
    have hlength := congrArg List.length hnil
    rw [Occurrence.text, List.extract_eq_take_drop] at hlength
    simp at hlength
    omega
  · refine h.apart.imp_of_mem fun ha _ hab => ?_
    exact (hmem _ ha).1.trans_le hab
  · have := h.leftmost.length_le
    rw [h.length_gaps, ← String.length_toList]
    omega

/-- The guard is exact, if the searches that it makes at the places of the text are; this is
to be asked only of patterns that are looked up, and no pattern is missed. Whatever passes
cuts the text at matches that are not empty and start one after another, into at most one
piece more than there are characters. -/
theorem guard_exact (hflags : FlagSet.parse (flags.getD "") = .ok set)
    (hcompile : compile set limits pattern = .ok compiled) :
    ((compiled.expr.lookup?.isSome = true → compiled.SearchExact text.toList) →
      ((bindPattern limits pattern (flags.getD "") text).outcome =
          .failure ⟨.pattern .matchesEmptyText, ""⟩ ↔
        ∃ i, i ≤ text.toList.length ∧ compiled.expr.EmptyAt text.toList i)) ∧
    ((∃ i, i ≤ text.toList.length ∧ compiled.expr.EmptyAt text.toList i) →
      (bindPattern limits pattern (flags.getD "") text).outcome =
        .failure ⟨.pattern .matchesEmptyText, ""⟩) ∧
    ((bindPattern limits pattern (flags.getD "") text).outcome ≠
        .failure ⟨.pattern .matchesEmptyText, ""⟩ →
      (bindPattern limits pattern (flags.getD "") text).outcome = .value compiled ∧
      ∃ found, GoBy limits text pattern flags compiled found ∧
        (∀ o ∈ found, o.start < o.stop ∧ o.text text.toList ≠ []) ∧
        found.Pairwise (fun a b => a.start < b.start) ∧
        ∃ tokens, onTexts limits "tokenize" ([text, pattern] ++ flags.toList) =
          .value (.ofStrings tokens) ∧ tokens.length ≤ text.length + 1) := by
  have hrefused : (bindPattern limits pattern (flags.getD "") text).outcome =
      .failure ⟨.pattern .matchesEmptyText, ""⟩ ↔
      ∃ i, i ≤ text.toList.length ∧ compiled.foundAt text.toList i = true :=
    (refused_iff hflags hcompile text).trans (compiled.matchesEmptyTextIn_iff text)
  refine ⟨fun hsearch => ?_, fun ⟨i, hi, hempty⟩ => ?_, fun hpasses => ?_⟩
  · have hexact : compiled.SearchExact text.toList := by
      cases hlookup : compiled.expr.lookup? with
      | none => exact Compiled.searchExact hlookup _
      | some characters => exact hsearch (by rw [hlookup]; rfl)
    exact hrefused.trans (exists_congr fun i => and_congr_right fun hi => hexact i hi)
  · exact hrefused.mpr ⟨i, hi, Compiled.foundAt_of_emptyAt hempty⟩
  · have hbind := bindPattern_of_compile hflags hcompile text
    rw [if_neg ((refused_iff hflags hcompile text).not.mp hpasses)] at hbind
    obtain ⟨found, hgo⟩ := goBy_of_bindPattern hbind
    obtain ⟨hnonempty, hstarts, hlength⟩ := goBy_nonempty hgo
    refine ⟨hbind, found, hgo, hnonempty, hstarts, _, hgo.tokenize_eq, ?_⟩
    rwa [List.length_map]

/-- A pattern that matches the empty text at the end only, although it matches a character
before it, and one that is looked up, by a character that the text does not hold. -/
theorem guard_exact_end :
    (∃ compiled, compile {} {} "a|$" = .ok compiled ∧
      ((bindPattern {} "a|$" "" "xa").outcome = .failure ⟨.pattern .matchesEmptyText, ""⟩ ↔
        ∃ i, i ≤ 2 ∧ compiled.expr.EmptyAt ['x', 'a'] i) ∧
      (bindPattern {} "a|$" "" "xa").outcome = .failure ⟨.pattern .matchesEmptyText, ""⟩) ∧
    ∃ compiled, compile {} {} "a|[a&&b]" = .ok compiled ∧
      compiled.expr.lookup? = some ['a'] ∧
      ((bindPattern {} "a|[a&&b]" "" "x").outcome = .failure ⟨.pattern .matchesEmptyText, ""⟩ ↔
        ∃ i, i ≤ 1 ∧ compiled.expr.EmptyAt ['x'] i) := by
  have hflags : FlagSet.parse ((none : Option String).getD "") = .ok {} := rfl
  constructor
  · have hcheck : (match compile {} {} "a|$" with
        | .ok compiled => compiled.expr.lookup?.isNone && compiled.matchesEmptyTextIn "xa"
        | .error _ => false) = true := by decide +kernel
    cases hcompile : compile {} {} "a|$" with
    | error refusal => rw [hcompile] at hcheck; simp at hcheck
    | ok compiled =>
      simp only [hcompile, Bool.and_eq_true, Option.isNone_iff_eq_none] at hcheck
      have hexact := (@guard_exact {} "xa" "a|$" none {} compiled hflags hcompile).1
        (by rw [hcheck.1]; simp)
      exact ⟨compiled, rfl, hexact, (refused_iff hflags hcompile "xa").mpr hcheck.2⟩
  · have hcheck : (match compile {} {} "a|[a&&b]" with
        | .ok compiled => decide (compiled.expr.lookup? = some ['a'])
        | .error _ => false) = true := by decide +kernel
    cases hcompile : compile {} {} "a|[a&&b]" with
    | error refusal => rw [hcompile] at hcheck; simp at hcheck
    | ok compiled =>
      simp only [hcompile, decide_eq_true_eq] at hcheck
      have hsearch : compiled.SearchExact ['x'] := Compiled.searchExact_iff.mpr <| by
        rw [hcheck]
        simp
      have hexact := (@guard_exact {} "x" "a|[a&&b]" none {} compiled hflags hcompile).1
        fun _ => hsearch
      exact ⟨compiled, rfl, hcheck, hexact⟩

/-! ### Texts that do not matter -/

/-- The guard refuses a pattern without conditions on places if it matches the empty text in
the empty text: one place is enough to tell, and every text has one. -/
theorem matchesEmptyTextIn_of_lookFree (hfree : compiled.expr.LookFree)
    (hsearch : compiled.SearchExact text.toList) :
    compiled.matchesEmptyTextIn text = true ↔ compiled.expr.EmptyAt [] 0 := by
  rw [compiled.matchesEmptyTextIn_iff]
  constructor
  · rintro ⟨i, hi, hfound⟩
    exact (hfree.emptyAt_iff text.toList i).mp ((hsearch i hi).mp hfound)
  · intro hempty
    refine ⟨0, Nat.zero_le _, (hsearch 0 (Nat.zero_le _)).mpr ?_⟩
    exact (hfree.emptyAt_iff text.toList 0).mpr hempty

theorem outcome_eq_of_lookFree (hflags : FlagSet.parse (flags.getD "") = .ok set)
    (hcompile : compile set limits pattern = .ok compiled) (hfree : compiled.expr.LookFree)
    {first second : String} (hfirst : compiled.SearchExact first.toList)
    (hsecond : compiled.SearchExact second.toList) :
    (bindPattern limits pattern (flags.getD "") first).outcome =
      (bindPattern limits pattern (flags.getD "") second).outcome := by
  have halike : compiled.matchesEmptyTextIn first = compiled.matchesEmptyTextIn second :=
    Bool.eq_iff_iff.mpr <| (matchesEmptyTextIn_of_lookFree hfree hfirst).trans
      (matchesEmptyTextIn_of_lookFree hfree hsecond).symm
  rw [bindPattern_of_compile hflags hcompile first, bindPattern_of_compile hflags hcompile second,
    halike]

/-- What a pattern comes to does not depend on the text that it is bound to, if it is taken as
a text or written without anchors. That the searches at the places of the texts are exact is to
be asked only of patterns that are looked up, and a pattern that is taken as a text never is. -/
theorem guard_ignores_text (hflags : FlagSet.parse (flags.getD "") = .ok set)
    (hcompile : compile set limits pattern = .ok compiled) (first second : String) :
    ('q' ∈ (flags.getD "").toList →
      (bindPattern limits pattern (flags.getD "") first).outcome =
        (bindPattern limits pattern (flags.getD "") second).outcome) ∧
    ∀ node, readPattern set.modes pattern.toList = .ok node → node.hasAnchor = false →
      (compiled.expr.lookup?.isSome = true →
        compiled.SearchExact first.toList ∧ compiled.SearchExact second.toList) →
      (bindPattern limits pattern (flags.getD "") first).outcome =
        (bindPattern limits pattern (flags.getD "") second).outcome := by
  have hexpr := (compile_ok hcompile).1
  have hliteral : set.literal = true →
      (bindPattern limits pattern (flags.getD "") first).outcome =
        (bindPattern limits pattern (flags.getD "") second).outcome := by
    intro hset
    rw [FlagSet.source, if_pos hset] at hexpr
    obtain ⟨hfree, hlookup⟩ := exprOf_escape_lookFree rfl rfl hexpr
    exact outcome_eq_of_lookFree hflags hcompile hfree (Compiled.searchExact hlookup _)
      (Compiled.searchExact hlookup _)
  refine ⟨fun hq => hliteral (FlagSet.literal_of_mem hflags hq), ?_⟩
  intro node hread hanchor hsearch
  cases hset : set.literal with
  | true => exact hliteral hset
  | false =>
    rw [FlagSet.source, hset, if_neg Bool.false_ne_true, exprOf, hread] at hexpr
    have hfree : compiled.expr.LookFree := Node.expr_lookFree hanchor hexpr
    have hexact : compiled.SearchExact first.toList ∧ compiled.SearchExact second.toList := by
      cases hlookup : compiled.expr.lookup? with
      | none => exact ⟨Compiled.searchExact hlookup _, Compiled.searchExact hlookup _⟩
      | some characters => exact hsearch (by rw [hlookup]; rfl)
    exact outcome_eq_of_lookFree hflags hcompile hfree hexact.1 hexact.2

/-- An anchor that is taken as a text, with the flag that gives it a meaning at each line, and a
pattern that is looked up, in texts that do not hold its character. -/
theorem guard_ignores_text_lookup :
    (∃ compiled, compile { multiLine := true, literal := true } {} "^" = .ok compiled ∧
      (bindPattern {} "^" "mq" "").outcome = (bindPattern {} "^" "mq" "a\n^").outcome) ∧
    ∃ compiled, compile {} {} "a|[a&&b]" = .ok compiled ∧
      compiled.expr.lookup? = some ['a'] ∧
      (bindPattern {} "a|[a&&b]" "" "x").outcome = (bindPattern {} "a|[a&&b]" "" "").outcome := by
  constructor
  · have hflags : FlagSet.parse ((some "mq").getD "") =
        .ok { multiLine := true, literal := true } := rfl
    have hcheck : (compile { multiLine := true, literal := true } {} "^").toBool = true := by
      decide +kernel
    cases hcompile : compile { multiLine := true, literal := true } {} "^" with
    | error refusal => rw [hcompile] at hcheck; cases hcheck
    | ok compiled =>
      have halike := (@guard_ignores_text {} "^" (some "mq") _ compiled hflags hcompile "" "a\n^").1
        (by decide)
      exact ⟨compiled, rfl, halike⟩
  · have hcheck : (match compile {} {} "a|[a&&b]", readPattern {} "a|[a&&b]".toList with
        | .ok compiled, .ok node => decide (compiled.expr.lookup? = some ['a']) && !node.hasAnchor
        | _, _ => false) = true := by decide +kernel
    cases hcompile : compile {} {} "a|[a&&b]" with
    | error refusal => rw [hcompile] at hcheck; simp at hcheck
    | ok compiled =>
      cases hread : readPattern {} "a|[a&&b]".toList with
      | error fault => rw [hcompile, hread] at hcheck; simp at hcheck
      | ok node =>
        simp only [hcompile, hread, Bool.and_eq_true, decide_eq_true_eq, Bool.not_eq_true']
          at hcheck
        obtain ⟨hlookup, hanchor⟩ := hcheck
        have hsearch (text : List Char) (h : 'a' ∉ text) : compiled.SearchExact text :=
          Compiled.searchExact_iff.mpr <| by
            rw [hlookup]
            rintro _ ⟨⟩ c hc hmem
            obtain rfl := List.mem_singleton.mp hmem
            exact h hc
        have halike := (@guard_ignores_text {} "a|[a&&b]" none {} compiled rfl hcompile "x" "").2
          node hread hanchor fun _ => ⟨hsearch _ (by decide), hsearch _ (by decide)⟩
        exact ⟨compiled, rfl, hlookup, halike⟩

/-- In a text that holds the character such a pattern is refused. -/
example : (match compile {} {} "a|[a&&b]" with
    | .ok compiled => compiled.matchesEmptyTextIn "xa" && !compiled.matchesEmptyTextIn "x"
    | .error _ => false) = true := by decide +kernel

end QueryFunctions.Library
