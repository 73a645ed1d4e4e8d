import QueryFunctions.Pattern.Compiled
import QueryFunctions.Proofs.Pattern.Flags
import QueryFunctions.Proofs.Pattern.NormalForm
import QueryFunctions.Proofs.Pattern.Progress
import QueryFunctions.Proofs.Pattern.Route

/-! Patterns that stand for texts. An escaped text is read back as a row of its characters,
and what that row means is the text itself, whatever lines and dots are to mean. -/

namespace QueryFunctions.Pattern

/-! ### Reading escaped text -/

theorem escape_cons (c : Char) (cs : List Char) :
    escape (c :: cs) = if isMeta c then '\\' :: c :: escape cs else c :: escape cs := by
  unfold escape
  rw [List.flatMap_cons]
  split_ifs <;> rfl

theorem plain_of_isMeta {c : Char} (h : isMeta c = true) :
    c.isDigit = false ∧ (c = 'x' || c = 'u' || c = 'U') = false ∧ (c = 'p' || c = 'P') = false ∧
      shortClassNamed? c = none := by
  have hall : ("\\.+*?()|[]\x7b\x7d^$#&-~".toList.all fun c =>
      !c.isDigit && !(c = 'x' || c = 'u' || c = 'U') && !(c = 'p' || c = 'P') &&
        (shortClassNamed? c).isNone) = true := by decide
  have hc := List.all_eq_true.mp hall c (by simpa [isMeta] using h)
  simp only [Bool.and_eq_true, Bool.not_eq_true', Option.isNone_iff_eq_none] at hc
  exact ⟨hc.1.1.1, hc.1.1.2, hc.1.2, hc.2⟩

theorem readEscape_of_isMeta {c : Char} (h : isMeta c = true) (left : Nat) (cs : List Char) :
    readEscape false ⟨left, '\\' :: c :: cs⟩ =
      .ok (.literal ⟨⟨left, left - 1 - 1⟩, c, false⟩, ⟨left - 1 - 1, cs⟩) := by
  obtain ⟨hdigit, hhex, hproperty, hclass⟩ := plain_of_isMeta h
  simp [readEscape, Cursor.next, Cursor.drop, hdigit, hhex, hproperty, hclass, readLetterEscape, h]

theorem readPart_of_not_isMeta {c : Char} (h : isMeta c = false) (state : State) (at_ : Cursor) :
    readPart state at_ c =
      .ok (state.push (.literal state.modes ⟨at_.charSpan, c, false⟩), at_.next) := by
  unfold readPart
  split
  all_goals first
    | rfl
    | exact absurd h (by decide)

theorem readPart_escape {state : State} (h : state.modes.verbose = false) (c : Char)
    (cs : List Char) (left : Nat) : ∃ (x : Char) (xs : List Char) (lit : Literal) (left' : Nat),
      escape (c :: cs) = x :: xs ∧ lit.char = c ∧
        readPart state ⟨left, x :: xs⟩ x =
          .ok (state.push (.literal state.modes lit), ⟨left', escape cs⟩) := by
  rw [escape_cons]
  split_ifs with hmeta
  · refine ⟨'\\', c :: escape cs, ⟨⟨left, left - 1 - 1⟩, c, false⟩, left - 1 - 1, rfl, rfl, ?_⟩
    change (readEscape state.modes.verbose ⟨left, '\\' :: c :: escape cs⟩ >>= _) = _
    rw [h, readEscape_of_isMeta hmeta]
    rfl
  · exact ⟨c, escape cs, ⟨⟨left, left - 1⟩, c, false⟩, left - 1, rfl, rfl,
      readPart_of_not_isMeta (by simpa using hmeta) state _⟩

theorem readFrom_escape (text : List Char) : ∀ (fuel left : Nat) (state : State),
    (escape text).length ≤ fuel → state.modes.verbose = false → state.stack = [] →
      ∃ (lits : List Literal) (stop : Nat), lits.map Literal.char = text ∧
        readFrom fuel state ⟨left, escape text⟩ =
          .ok (Row.node ⟨state.row.start,
            (lits.map (Node.literal state.modes)).reverse ++ state.row.items⟩ stop) := by
  induction text with
  | nil =>
    intro fuel left state _ hverbose hstack
    refine ⟨[], left, rfl, ?_⟩
    change readFrom fuel state ⟨left, []⟩ = _
    rw [readFrom_end (by rw [hverbose]; rfl), State.finish, State.body, hstack, hverbose]
    rfl
  | cons c cs ih =>
    intro fuel left state hfuel hverbose hstack
    have hlength : (escape cs).length + 1 ≤ (escape (c :: cs)).length := by
      rw [escape_cons]
      split_ifs <;> simp
    obtain ⟨fuel, rfl⟩ : ∃ k, fuel = k + 1 := ⟨fuel - 1, by omega⟩
    obtain ⟨x, xs, lit, left', hescape, rfl, hpart⟩ := readPart_escape hverbose c cs left
    obtain ⟨lits, stop, rfl, hrest⟩ :=
      ih fuel left' (state.push (.literal state.modes lit)) (by omega) hverbose hstack
    refine ⟨lit :: lits, stop, rfl, ?_⟩
    rw [hescape, readFrom_part (by rw [hverbose]; rfl), hverbose]
    change (readPart state ⟨left, x :: xs⟩ x >>= _) = _
    rw [hpart]
    refine hrest.trans ?_
    simp [State.push]

/-! ### The meaning of escaped text -/

/-- The pattern of a text. -/
def Expr.ofText : List Char → Expr
  | [] => .empty
  | text => .literal text

theorem foldr_literals (c : Char) (cs : List Char) :
    ((c :: cs).map fun c => Expr.literal [c]).foldr Expr.consItem [] = [.literal (c :: cs)] := by
  induction cs generalizing c with
  | nil => rfl
  | cons d ds ih =>
    rw [List.map_cons, List.foldr_cons, ih]
    rfl

theorem rowOf_literals (text : List Char) :
    Expr.rowOf (text.map fun c => .literal [c]) = .ofText text := by
  have hitems : (text.map fun c => Expr.literal [c]).flatMap Expr.rowItems =
      text.map fun c => .literal [c] := by
    rw [List.flatMap_map]
    exact List.map_eq_flatMap.symm
  unfold Expr.rowOf
  rw [hitems]
  cases text with
  | nil => rfl
  | cons c cs => rw [foldr_literals, Expr.ofText.eq_def]

theorem exprs_literals {modes : Modes} (hcase : modes.ignoreCase = false)
    (hchar : modes.byChar = true) (lits : List Literal) :
    Node.exprs (lits.map (Node.literal modes)) =
      .ok ((lits.map Literal.char).map fun c => .literal [c]) := by
  induction lits with
  | nil => rfl
  | cons lit lits ih =>
    have hlit : (Node.literal modes lit).expr = .ok (.literal [lit.char]) := by
      rw [Node.expr, literalExpr, hcase, hchar]
      rfl
    rw [List.map_cons, Node.exprs, hlit, ih]
    rfl

theorem anyTooDeep_literals (modes : Modes) (lits : List Literal) (room : Nat) :
    Node.anyTooDeep (lits.map (Node.literal modes)) room = none := by
  induction lits with
  | nil => rfl
  | cons lit lits ih =>
    rw [List.map_cons, Node.anyTooDeep, ih]
    rfl

theorem tooDeep_literals (modes : Modes) (lits : List Literal) (start stop room : Nat) :
    (Row.node ⟨start, (lits.map (Node.literal modes)).reverse⟩ stop).tooDeep (room + 1) = none := by
  have hitems := anyTooDeep_literals modes lits room
  match hrow : (lits.map (Node.literal modes)).reverse with
  | [] => rfl
  | [item] =>
    obtain ⟨lit, -, rfl⟩ := List.map_eq_singleton_iff.mp (List.reverse_eq_iff.mp hrow)
    rfl
  | second :: first :: items =>
    rw [List.reverse_eq_iff] at hrow
    rw [hrow] at hitems
    exact hitems

/-- An escaped text is read as a row of its characters. -/
theorem readPattern_escape {modes : Modes} (hverbose : modes.verbose = false) (text : List Char) :
    ∃ (lits : List Literal) (start stop : Nat), lits.map Literal.char = text ∧
      readPattern modes (escape text) =
        .ok (Row.node ⟨start, (lits.map (Node.literal modes)).reverse⟩ stop) := by
  obtain ⟨lits, stop, rfl, hread⟩ := readFrom_escape text (escape text).length
    (escape text).length { modes := modes, row := ⟨(escape text).length, []⟩ } (Nat.le_refl _)
    hverbose rfl
  rw [List.append_nil] at hread
  have hdeep := tooDeep_literals modes lits (escape (lits.map Literal.char)).length stop 249
  exact ⟨lits, _, stop, rfl, readPattern_eq_ok.mpr ⟨hread, hdeep⟩⟩

/-- An escaped text stands for the text, if case matters and characters are read. -/
theorem exprOf_escape {modes : Modes} (hcase : modes.ignoreCase = false)
    (hchar : modes.byChar = true) (hverbose : modes.verbose = false) (text : List Char) :
    exprOf modes (escape text) = .ok (.ofText text) := by
  obtain ⟨lits, start, stop, rfl, hread⟩ := readPattern_escape hverbose text
  rw [exprOf, hread]
  change (Row.node _ stop).expr = _
  rw [Row.node_expr, List.reverse_reverse, exprs_literals hcase hchar]
  exact congrArg Except.ok (rowOf_literals _)

/-! ### The compiled text -/

variable {set : FlagSet} {limits : Limits} {text : String} {compiled : Compiled}

/-- Under the flag for literal patterns, and without the one that ignores case, a text
compiles to itself, without groups; the other flags have no effect. -/
theorem compile_literal (hliteral : set.literal = true) (hcase : set.ignoreCase = false)
    (h : compile set limits text = .ok compiled) :
    compiled.expr = .ofText text.toList ∧ compiled.groupNames = [none] := by
  have hexpr : exprOf set.modes (set.source text.toList) = .ok (.ofText text.toList) := by
    rw [FlagSet.source, if_pos hliteral]
    exact exprOf_escape hcase rfl rfl _
  obtain ⟨hread, hnames⟩ := compile_ok h
  rw [hexpr] at hread
  have hcompiled := Except.ok.inj hread
  refine ⟨hcompiled.symm, ?_⟩
  rw [hnames, ← hcompiled]
  cases text.toList <;> rfl

theorem Expr.lookup?_ofText (text : List Char) : (ofText text).lookup? = none := by
  cases text <;> rfl

theorem Expr.route_ofText (text part : List Char) (i j : Nat) (events : List GroupEvent) :
    (ofText part).route text i j events ↔
      part <+: text.drop i ∧ j = i + part.length ∧ events = [] := by
  cases part with
  | nil => simp [ofText, route, Route.stay, eq_comm]
  | cons c cs => rfl

end QueryFunctions.Pattern
