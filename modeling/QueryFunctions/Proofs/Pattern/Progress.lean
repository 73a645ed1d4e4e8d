import Mathlib.Order.Lattice
import Mathlib.Tactic.SplitIfs
import QueryFunctions.Pattern.Grammar
import QueryFunctions.Proofs.Pattern.Success

/-! Reading goes on. No reader leaves more of a pattern than it was given, and one that reads
a part of it leaves less. So the fuel for the parts does not run out as long as it is no less
than the characters that are left, and more of it changes nothing. -/

namespace QueryFunctions.Pattern

/-! ### Steps -/

namespace Cursor

def size (c : Cursor) : Nat := c.rest.length

variable (verbose : Bool) (c : Cursor)

theorem size_drop (n : Nat) : (c.drop n).size = c.size - n := List.length_drop ..

theorem size_next : c.next.size = c.size - 1 := size_drop c 1

theorem size_skipFrom (cs : List Char) : ∀ (comment : Bool) (left : Nat),
    (skipFrom comment left cs).size ≤ cs.length := by
  induction cs with
  | nil =>
    intro comment left
    cases comment <;> exact Nat.le_refl 0
  | cons c cs ih =>
    intro comment left
    cases comment with
    | true => exact (ih _ _).trans (Nat.le_succ _)
    | false =>
      unfold skipFrom
      split_ifs
      · exact (ih _ _).trans (Nat.le_succ _)
      · exact (ih _ _).trans (Nat.le_succ _)
      · exact Nat.le_refl _

theorem size_skip : (c.skip verbose).size ≤ c.size := by
  unfold skip
  split_ifs
  · exact size_skipFrom _ _ _
  · exact Nat.le_refl _

theorem size_advance : (c.advance verbose).size ≤ c.size - 1 :=
  (size_skip verbose c.next).trans_eq (size_next c)

theorem size_gather (p : Char → Bool) : (c.gather verbose p).2.size ≤ c.size := by
  have hfrom (fuel : Nat) : ∀ c : Cursor, (gatherFrom verbose p fuel c).2.size ≤ c.size := by
    induction fuel with
    | zero => exact fun c => Nat.le_refl _
    | succ fuel ih =>
      intro c
      unfold gatherFrom
      split
      · exact Nat.le_refl _
      · split_ifs
        · exact (ih _).trans ((size_advance verbose c).trans (Nat.sub_le _ _))
        · exact Nat.le_refl _
  exact hfrom c.left c

theorem size_skipBlanks : c.skipBlanks.size ≤ c.size := (size_drop c _).trans_le (Nat.sub_le _ _)

end Cursor

open Cursor

theorem readDecimal_size (verbose : Bool) (c : Cursor) :
    (readDecimal verbose c).2.size ≤ c.size := by
  have h₁ := size_skipBlanks c
  have h₂ := size_gather verbose c.skipBlanks Char.isDigit
  have h₃ := size_gather verbose (c.skipBlanks.gather verbose Char.isDigit).2 Unicode.isBlank
  unfold readDecimal
  dsimp only
  split_ifs <;> exact h₃.trans (h₂.trans h₁)

/-! ### Escapes -/

theorem readHexDigits_size {verbose : Bool} (count : Nat) : ∀ {c after : Cursor}
    {digits : List Char}, readHexDigits verbose count c = .ok (digits, after) →
      after.size ≤ c.size := by
  induction count with
  | zero =>
    intro c after digits h
    obtain ⟨-, rfl⟩ := pair_ok h
    exact Nat.le_refl _
  | succ count ih =>
    intro c after digits h
    unfold readHexDigits at h
    split at h
    · cases h
    · split_ifs at h
      · obtain ⟨⟨later, stop⟩, hlater, h⟩ := bind_ok h
        obtain ⟨-, rfl⟩ := pair_ok h
        exact (ih hlater).trans ((size_advance verbose c).trans (Nat.sub_le _ _))
      · cases h

theorem readHexBraced_size {verbose : Bool} {start : Nat} {brace after : Cursor} {lit : Literal}
    (h : readHexBraced verbose start brace = .ok (lit, after)) : after.size ≤ brace.size := by
  have h₁ := size_advance verbose brace
  have h₂ := size_gather verbose (brace.advance verbose) isHexDigit
  have h₃ := size_advance verbose ((brace.advance verbose).gather verbose isHexDigit).2
  unfold readHexBraced at h
  dsimp only at h
  split at h
  case h_1 => cases h
  case h_2 =>
    split_ifs at h
    · cases h
    · obtain ⟨lit, -, h⟩ := bind_ok h
      obtain ⟨-, rfl⟩ := pair_ok h
      omega
  case h_3 => cases h

theorem readHex_size {verbose : Bool} {start : Nat} {letter : Char} {c after : Cursor}
    {lit : Literal} (h : readHex verbose start letter c = .ok (lit, after)) :
    after.size ≤ c.size := by
  have hfirst := size_advance verbose c
  unfold readHex at h
  dsimp only at h
  split at h
  case h_1 => cases h
  case h_2 =>
    have := readHexBraced_size h
    omega
  case h_3 =>
    obtain ⟨⟨code, stop⟩, hcode, h⟩ := bind_ok h
    obtain ⟨lit, -, h⟩ := bind_ok h
    obtain ⟨-, rfl⟩ := pair_ok h
    exact (readHexDigits_size _ hcode).trans (hfirst.trans (Nat.sub_le _ _))

theorem readProperty_size {verbose negated : Bool} {start : Nat} {c after : Cursor}
    {primitive : Primitive}
    (h : readProperty verbose start negated c = .ok (primitive, after)) :
    after.size ≤ c.size := by
  have hfirst := size_advance verbose c
  have hname := size_advance verbose (c.advance verbose)
  have htext := size_gather verbose ((c.advance verbose).advance verbose) (· != '\x7d')
  have hnext := size_next (((c.advance verbose).advance verbose).gather verbose (· != '\x7d')).2
  unfold readProperty at h
  dsimp only at h
  split at h
  case h_1 => cases h
  case h_2 =>
    split_ifs at h
    · cases h
    · obtain ⟨-, rfl⟩ := pair_ok h
      omega
  case h_3 => cases h
  case h_4 =>
    obtain ⟨-, rfl⟩ := pair_ok h
    omega

theorem readEdgeName?_size {verbose : Bool} {start : Nat} {brace stop : Cursor} {edge : WordEdge}
    (h : readEdgeName? verbose start brace = .ok (some (edge, stop))) :
    stop.size ≤ brace.size := by
  have hfirst := size_advance verbose brace
  have hname := size_gather verbose (brace.advance verbose) isEdgeNameChar
  have hnext := size_next ((brace.advance verbose).gather verbose isEdgeNameChar).2
  unfold readEdgeName? at h
  dsimp only at h
  split at h
  case h_1 => cases h
  case h_2 =>
    split_ifs at h
    · cases h
    · split at h
      case h_1 =>
        split at h
        case h_1 =>
          obtain ⟨-, rfl⟩ := Prod.mk.inj (Option.some.inj (Except.ok.inj h))
          omega
        case h_2 => cases h
      case h_2 => cases h

theorem readLetterEscape_size {verbose : Bool} {start : Nat} {letter : Char} {c after : Cursor}
    {primitive : Primitive}
    (h : readLetterEscape verbose start letter c = .ok (primitive, after)) :
    after.size ≤ c.size := by
  have hstay : ∀ {primitive' : Primitive}, Except.ok (primitive', c) =
      (Except.ok (primitive, after) : Except Fault (Primitive × Cursor)) → after.size ≤ c.size := by
    intro primitive' h
    obtain ⟨-, rfl⟩ := pair_ok h
    exact Nat.le_refl _
  unfold readLetterEscape at h
  dsimp only at h
  split_ifs at h
  · exact hstay h
  · split at h
    case h_1 => exact hstay h
    case h_2 =>
      split at h
      case h_1 =>
        obtain ⟨name, hname, h⟩ := bind_ok h
        split at h
        case h_1 =>
          obtain ⟨-, rfl⟩ := pair_ok h
          exact readEdgeName?_size hname
        case h_2 => exact hstay h
      case h_2 => exact hstay h
    case h_3 => cases h

theorem readEscape_size {verbose : Bool} {c after : Cursor} {primitive : Primitive}
    (h : readEscape verbose c = .ok (primitive, after)) : after.size ≤ c.size - 1 := by
  have hfirst := size_next c
  have hletter := size_next c.next
  unfold readEscape at h
  dsimp only at h
  split at h
  case h_1 => cases h
  case h_2 =>
    split_ifs at h
    · cases h
    · obtain ⟨⟨lit, stop⟩, hlit, h⟩ := bind_ok h
      obtain ⟨-, rfl⟩ := pair_ok h
      exact (readHex_size hlit).trans_eq hfirst
    · exact (readProperty_size h).trans_eq hfirst
    · split at h
      case h_1 =>
        obtain ⟨-, rfl⟩ := pair_ok h
        omega
      case h_2 =>
        have := readLetterEscape_size h
        omega

/-! ### Brackets -/

theorem readPosix?_size {c after : Cursor} {item : SetItem}
    (h : readPosix? c = some (item, after)) : after.size ≤ c.size := by
  unfold readPosix? at h
  split at h
  case h_1 body hrest =>
    dsimp only at h
    split at h
    case h_1 name rest hname =>
      obtain ⟨set, -, h⟩ := Option.map_eq_some_iff.mp h
      obtain ⟨-, rfl⟩ := Prod.mk.inj h
      have hlength := congrArg List.length hname
      rw [List.length_drop] at hlength
      have hbody : (if body.head? == some '^' then body.drop 1 else body).length ≤ body.length := by
        split_ifs
        · exact (List.length_drop ..).trans_le (Nat.sub_le _ _)
        · exact Nat.le_refl _
      have hcursor : c.size = body.length + 2 := by rw [size, hrest]; rfl
      simp only [List.length_cons] at hlength
      change rest.length ≤ c.size
      omega
    case h_2 => cases h
  case h_2 => cases h

theorem takeHyphens_size {verbose : Bool} {start : Nat} (fuel : Nat) : ∀ {pool pool' : Pool}
    {c after : Cursor}, takeHyphens verbose start fuel pool c = .ok (pool', after) →
      after.size ≤ c.size := by
  induction fuel with
  | zero =>
    intro pool pool' c after h
    obtain ⟨-, rfl⟩ := pair_ok h
    exact Nat.le_refl _
  | succ fuel ih =>
    intro pool pool' c after h
    unfold takeHyphens at h
    split at h
    case h_1 =>
      dsimp only at h
      split_ifs at h
      · cases h
      · exact (ih h).trans ((size_advance verbose c).trans (Nat.sub_le _ _))
    case h_2 =>
      obtain ⟨-, rfl⟩ := pair_ok h
      exact Nat.le_refl _

theorem stepIntoBracket_size {verbose : Bool} {start : Nat} {c after : Cursor}
    (h : stepIntoBracket verbose start c = .ok after) : after.size ≤ c.size - 1 := by
  unfold stepIntoBracket at h
  dsimp only at h
  split_ifs at h
  · cases h
  · obtain rfl := Except.ok.inj h
    exact size_advance verbose c

theorem opening_size {verbose negated : Bool} {outer pool : Pool} {start : Nat}
    {first after : Cursor} {frame : SetFrame}
    (h : (do
      let (pool, next) ← takeHyphens verbose start first.left (.start first.left) first
      if pool.items.isEmpty && next.rest.head? = some ']' then
        let after ← stepIntoBracket verbose start next
        let pool := pool.push (.literal ⟨next.charSpan, ']', false⟩)
        .ok (.opened outer ⟨start, after.left⟩ negated, pool, after)
      else .ok (.opened outer ⟨start, next.left⟩ negated, pool, next)) =
        (.ok (frame, pool, after) : Except Fault (SetFrame × Pool × Cursor))) :
    after.size ≤ first.size := by
  obtain ⟨⟨pool', next⟩, hnext, h⟩ := bind_ok h
  have h₁ := takeHyphens_size _ hnext
  dsimp only at h
  split_ifs at h
  · obtain ⟨stop, hstop, h⟩ := bind_ok h
    have h₂ := stepIntoBracket_size hstop
    obtain ⟨-, -, rfl⟩ := triple_ok h
    omega
  · obtain ⟨-, -, rfl⟩ := triple_ok h
    exact h₁

theorem readOpening_size {verbose : Bool} {outer pool : Pool} {c after : Cursor}
    {frame : SetFrame} (h : readOpening verbose outer c = .ok (frame, pool, after)) :
    after.size ≤ c.size - 1 := by
  unfold readOpening at h
  obtain ⟨first, hfirst, h⟩ := bind_ok h
  have h₁ := stepIntoBracket_size hfirst
  dsimp only at h
  split_ifs at h
  · obtain ⟨second, hsecond, h⟩ := bind_ok h
    have h₂ := stepIntoBracket_size hsecond
    have h₃ := opening_size h
    omega
  · exact (opening_size h).trans h₁

theorem readRangeEnd_size {verbose : Bool} {c after : Cursor} {primitive : Primitive}
    (h : readRangeEnd verbose c = .ok (primitive, after)) : after.size ≤ c.size - 1 := by
  unfold readRangeEnd at h
  split at h
  case h_1 => exact readEscape_size h
  case h_2 =>
    obtain ⟨-, rfl⟩ := pair_ok h
    exact (size_next c).le
  case h_3 => cases h

theorem refuseUnclosed_ne_ok {α : Type} {a : α} : ∀ stack : List SetFrame,
    refuseUnclosed stack ≠ .ok a
  | [], h => by cases h
  | .opened _ _ _ :: _, h => by cases h
  | .operator _ _ :: stack, h => refuseUnclosed_ne_ok stack h

theorem readRange_size {verbose : Bool} {stack : List SetFrame} {c after : Cursor}
    {item : SetItem} (h : readRange verbose stack c = .ok (item, after)) :
    after.size ≤ c.size := by
  unfold readRange at h
  obtain ⟨⟨first, c'⟩, hfirst, h⟩ := bind_ok h
  have h₁ := readRangeEnd_size hfirst
  have h₂ := size_skip verbose c'
  have h₃ := size_advance verbose (c'.skip verbose)
  dsimp only at h₁ h
  split at h
  case h_1 => exact absurd h (refuseUnclosed_ne_ok stack)
  case h_2 =>
    split_ifs at h
    · obtain ⟨item', -, h⟩ := bind_ok h
      obtain ⟨-, rfl⟩ := pair_ok h
      omega
    · obtain ⟨done, hrefuse, -⟩ := bind_ok h
      exact absurd hrefuse (refuseUnclosed_ne_ok stack)
    · obtain ⟨⟨last, stop⟩, hlast, h⟩ := bind_ok h
      have h₄ : stop.size ≤ _ := readRangeEnd_size hlast
      obtain ⟨lo, -, h⟩ := bind_ok h
      obtain ⟨hi, -, h⟩ := bind_ok h
      split_ifs at h
      · cases h
      · obtain ⟨-, rfl⟩ := pair_ok h
        change stop.size ≤ c.size
        omega
  case h_3 =>
    obtain ⟨item', -, h⟩ := bind_ok h
    obtain ⟨-, rfl⟩ := pair_ok h
    omega

theorem readBracketFrom_size {verbose : Bool} (fuel : Nat) : ∀ {stack : List SetFrame}
    {pool : Pool} {c after : Cursor} {bracket : Bracket},
    readBracketFrom verbose fuel stack pool c = .ok (bracket, after) → after.size ≤ c.size := by
  induction fuel with
  | zero =>
    intro stack pool c after bracket h
    exact absurd h (refuseUnclosed_ne_ok stack)
  | succ fuel ih =>
    intro stack pool c after bracket h
    have hskip := size_skip verbose c
    have hnext := size_next (c.skip verbose)
    have hdrop := size_drop (c.skip verbose) 2
    unfold readBracketFrom at h
    dsimp only at h
    split at h
    case h_1 => exact absurd h (refuseUnclosed_ne_ok stack)
    case h_2 =>
      split at h
      case h_1 item stop hposix =>
        exact (ih h).trans ((readPosix?_size hposix).trans hskip)
      case h_2 =>
        obtain ⟨⟨frame, inner, stop⟩, hopening, h⟩ := bind_ok h
        have h₁ := readOpening_size hopening
        have h₂ := ih h
        dsimp only at h₂
        omega
    case h_3 =>
      split at h
      case h_1 =>
        split_ifs at h
        · obtain ⟨-, rfl⟩ := pair_ok h
          omega
        · have := ih h
          omega
      case h_2 => exact absurd h (refuseUnclosed_ne_ok stack)
    case h_4 =>
      split at h
      case h_1 =>
        have := ih h
        omega
      case h_2 =>
        obtain ⟨⟨item, stop⟩, hrange, h⟩ := bind_ok h
        have h₁ := readRange_size hrange
        have h₂ := ih h
        dsimp only at h₂
        omega

theorem readBracket_size {verbose : Bool} {c after : Cursor} {bracket : Bracket}
    (h : readBracket verbose c = .ok (bracket, after)) : after.size ≤ c.size - 1 := by
  unfold readBracket at h
  obtain ⟨⟨frame, pool, stop⟩, hopening, h⟩ := bind_ok h
  exact (readBracketFrom_size _ h).trans (readOpening_size hopening)

/-! ### Groups and repetitions -/

theorem readFlags_size (cs : List Char) : ∀ {flags flags' : FlagList} {left : Nat}
    {stop : Cursor}, readFlags flags left cs = .ok (flags', stop) → stop.size ≤ cs.length := by
  induction cs with
  | nil =>
    intro flags flags' left stop h
    cases h
  | cons c cs ih =>
    intro flags flags' left stop h
    unfold readFlags at h
    dsimp only at h
    split_ifs at h
    · split at h
      case h_1 => cases h
      case h_2 =>
        obtain ⟨-, rfl⟩ := pair_ok h
        exact Nat.le_refl _
    · split at h
      case h_1 => cases h
      case h_2 => exact (ih h).trans (Nat.le_succ _)
    · split at h
      case h_1 => cases h
      case h_2 =>
        split at h
        case h_1 => cases h
        case h_2 => exact (ih h).trans (Nat.le_succ _)

theorem readNameChars_size (cs : List Char) : ∀ {first : Bool} {left : Nat} {name : List Char}
    {stop : Cursor}, readNameChars first left cs = .ok (name, stop) → stop.size ≤ cs.length := by
  induction cs with
  | nil =>
    intro first left name stop h
    cases h
  | cons c cs ih =>
    intro first left name stop h
    unfold readNameChars at h
    by_cases hend : c = '>'
    · rw [if_pos hend] at h
      obtain ⟨-, rfl⟩ := pair_ok h
      exact Nat.le_refl _
    · rw [if_neg hend] at h
      dsimp only at h
      by_cases hvalid : (if first then isNameStart c else isNameChar c) = true
      · rw [if_pos hvalid] at h
        obtain ⟨⟨later, stop'⟩, hlater, h⟩ := bind_ok h
        obtain ⟨-, rfl⟩ := pair_ok h
        exact (ih hlater).trans (Nat.le_succ _)
      · rw [if_neg hvalid] at h
        cases h

theorem readName_size {names : List (String × Span)} {c after : Cursor} {name : String}
    {span : Span} (h : readName names c = .ok (name, span, after)) : after.size ≤ c.size := by
  unfold readName at h
  obtain ⟨⟨chars, stop⟩, hchars, h⟩ := bind_ok h
  have h₁ : stop.size ≤ c.size := readNameChars_size _ hchars
  have h₂ := size_next stop
  dsimp only at h
  split_ifs at h
  · obtain ⟨done, hrefuse, -⟩ := bind_ok h
    cases hrefuse
  · split at h
    case h_1 => cases h
    case h_2 =>
      obtain ⟨-, -, rfl⟩ := triple_ok h
      omega

theorem readFlagGroup_size {state next : State} {span : Span} {mark c after : Cursor}
    (h : readFlagGroup state span mark c = .ok (next, after)) : after.size ≤ c.size := by
  unfold readFlagGroup at h
  dsimp only at h
  split_ifs at h
  · obtain ⟨done, hrefuse, -⟩ := bind_ok h
    cases hrefuse
  · obtain ⟨⟨flags, stop⟩, hflags, h⟩ := bind_ok h
    have h₁ : stop.size ≤ c.size := readFlags_size _ hflags
    have h₂ := size_next stop
    dsimp only at h
    split_ifs at h
    · obtain ⟨done, hrefuse, -⟩ := bind_ok h
      cases hrefuse
    · obtain ⟨-, rfl⟩ := pair_ok h
      omega
    · obtain ⟨-, rfl⟩ := pair_ok h
      omega

theorem readGroup_size {state next : State} {c after : Cursor}
    (h : readGroup state c = .ok (next, after)) : after.size ≤ c.size - 1 := by
  have hmark := size_advance state.modes.verbose c
  have hnamed {size : Nat} {name : String} {nameSpan : Span} {stop : Cursor}
      (h : readName state.names ((c.advance state.modes.verbose).drop size) =
        .ok (name, nameSpan, stop)) : stop.size ≤ c.size - 1 := by
    have h₁ := readName_size h
    have h₂ := size_drop (c.advance state.modes.verbose) size
    omega
  unfold readGroup at h
  dsimp only at h
  split at h
  case h_5 =>
    obtain ⟨⟨name, nameSpan, stop⟩, hname, h⟩ := bind_ok h
    obtain ⟨-, rfl⟩ := pair_ok h
    exact hnamed hname
  case h_6 =>
    obtain ⟨⟨name, nameSpan, stop⟩, hname, h⟩ := bind_ok h
    obtain ⟨-, rfl⟩ := pair_ok h
    exact hnamed hname
  case h_7 =>
    have h₁ := readFlagGroup_size h
    have h₂ := size_next (c.advance state.modes.verbose)
    omega
  case h_8 =>
    obtain ⟨-, rfl⟩ := pair_ok h
    exact hmark
  all_goals cases h

theorem readRepetition_size {state next : State} {min : Nat} {max : Option Nat}
    {c after : Cursor} (h : readRepetition state min max c = .ok (next, after)) :
    after.size ≤ c.size - 1 := by
  have h₁ := size_next c
  have h₂ := size_next c.next
  unfold readRepetition at h
  obtain ⟨⟨body, rest⟩, -, h⟩ := bind_ok h
  dsimp only at h
  split_ifs at h
  · obtain ⟨-, rfl⟩ := pair_ok h
    omega
  · obtain ⟨-, rfl⟩ := pair_ok h
    omega

theorem readCounts_size {verbose : Bool} {start least : Nat} {most : Option Nat}
    {c after : Cursor} (h : readCounts verbose start c = .ok (least, most, after)) :
    after.size ≤ c.size := by
  have hleast := readDecimal_size verbose c
  have hnext := size_advance verbose (readDecimal verbose c).2
  have hmost := readDecimal_size verbose ((readDecimal verbose c).2.advance verbose)
  unfold readCounts at h
  dsimp only at h
  split at h
  case h_1 => cases h
  case h_2 =>
    split at h
    case h_1 => cases h
    case h_2 =>
      obtain ⟨count, -, h⟩ := bind_ok h
      obtain ⟨-, -, rfl⟩ := triple_ok h
      omega
    case h_3 =>
      obtain ⟨count, -, h⟩ := bind_ok h
      obtain ⟨count', -, h⟩ := bind_ok h
      obtain ⟨-, -, rfl⟩ := triple_ok h
      omega
  case h_3 =>
    obtain ⟨count, -, h⟩ := bind_ok h
    obtain ⟨-, -, rfl⟩ := triple_ok h
    omega

theorem readCounted_size {state next : State} {c after : Cursor}
    (h : readCounted state c = .ok (next, after)) : after.size ≤ c.size - 1 := by
  have hfirst := size_advance state.modes.verbose c
  unfold readCounted at h
  obtain ⟨⟨body, rest⟩, -, h⟩ := bind_ok h
  dsimp only at h
  split_ifs at h
  · obtain ⟨done, hrefuse, -⟩ := bind_ok h
    cases hrefuse
  · obtain ⟨⟨min, max, stop⟩, hcounts, h⟩ := bind_ok h
    have h₁ : stop.size ≤ _ := readCounts_size hcounts
    have h₂ := size_advance state.modes.verbose stop
    have h₃ := size_next (stop.advance state.modes.verbose)
    dsimp only at h
    split_ifs at h
    all_goals first
      | (cases h; done)
      | (obtain ⟨-, rfl⟩ := pair_ok h; omega)

theorem readPart_size {state next : State} {c after : Cursor} {char : Char}
    (h : readPart state c char = .ok (next, after)) : after.size ≤ c.size - 1 := by
  have hnext := size_next c
  have hstay : ∀ {state' : State}, Except.ok (state', c.next) =
      (Except.ok (next, after) : Except Fault (State × Cursor)) → after.size ≤ c.size - 1 := by
    intro state' h
    obtain ⟨-, rfl⟩ := pair_ok h
    exact hnext.le
  unfold readPart at h
  dsimp only at h
  split at h
  case h_1 => exact readGroup_size h
  case h_2 =>
    obtain ⟨closed, -, h⟩ := bind_ok h
    exact hstay h
  case h_3 => exact hstay h
  case h_4 =>
    obtain ⟨⟨bracket, stop⟩, hbracket, h⟩ := bind_ok h
    obtain ⟨-, rfl⟩ := pair_ok h
    exact readBracket_size hbracket
  case h_5 => exact readRepetition_size h
  case h_6 => exact readRepetition_size h
  case h_7 => exact readRepetition_size h
  case h_8 => exact readCounted_size h
  case h_9 =>
    obtain ⟨⟨primitive, stop⟩, hescape, h⟩ := bind_ok h
    obtain ⟨-, rfl⟩ := pair_ok h
    exact readEscape_size hescape
  all_goals exact hstay h

/-! ### Patterns -/

theorem readFrom_end {state : State} {c : Cursor} (h : (c.skip state.modes.verbose).rest = [])
    (fuel : Nat) : readFrom fuel state c = state.finish (c.skip state.modes.verbose) := by
  unfold readFrom
  simp only [h]

theorem readFrom_part {state : State} {c : Cursor} {char : Char} {cs : List Char}
    (h : (c.skip state.modes.verbose).rest = char :: cs) (fuel : Nat) :
    readFrom (fuel + 1) state c = (readPart state (c.skip state.modes.verbose) char >>=
      fun result => readFrom fuel result.1 result.2) := by
  conv_lhs => unfold readFrom
  simp only [h]

/-- More fuel than there are characters changes nothing. -/
theorem readFrom_fuel (fuel : Nat) : ∀ {fuel' : Nat} {state : State} {c : Cursor},
    c.size ≤ fuel → c.size ≤ fuel' → readFrom fuel state c = readFrom fuel' state c := by
  induction fuel with
  | zero =>
    intro fuel' state c hfuel _
    have hskip := size_skip state.modes.verbose c
    have hend : (c.skip state.modes.verbose).rest = [] :=
      List.eq_nil_of_length_eq_zero (Nat.le_zero.mp (hskip.trans hfuel))
    rw [readFrom_end hend, readFrom_end hend]
  | succ fuel ih =>
    intro fuel' state c hfuel hfuel'
    have hskip := size_skip state.modes.verbose c
    cases hrest : (c.skip state.modes.verbose).rest with
    | nil => rw [readFrom_end hrest, readFrom_end hrest]
    | cons char cs =>
      have hsize : (c.skip state.modes.verbose).size = cs.length + 1 := by
        rw [size, hrest, List.length_cons]
      obtain ⟨fuel', rfl⟩ : ∃ n, fuel' = n + 1 := ⟨fuel' - 1, by omega⟩
      rw [readFrom_part hrest, readFrom_part hrest]
      cases hpart : readPart state (c.skip state.modes.verbose) char with
      | error fault => rfl
      | ok result =>
        obtain ⟨next, after⟩ := result
        have hafter := readPart_size hpart
        change readFrom fuel next after = readFrom fuel' next after
        exact ih (by omega) (by omega)

theorem readPattern_eq_ok {modes : Modes} {pattern : List Char} {node : Node} :
    readPattern modes pattern = .ok node ↔
      readFrom pattern.length { modes := modes, row := ⟨pattern.length, []⟩ }
        ⟨pattern.length, pattern⟩ = .ok node ∧ node.tooDeep nestingLimit = none := by
  constructor
  · intro h
    obtain ⟨node', hread, h⟩ := bind_ok h
    split at h
    case h_1 => cases h
    case h_2 hdeep =>
      obtain rfl := Except.ok.inj h
      exact ⟨hread, hdeep⟩
  · rintro ⟨hread, hdeep⟩
    unfold readPattern Cursor.ofChars
    simp only [hread, bind, Except.bind, hdeep]

end QueryFunctions.Pattern
