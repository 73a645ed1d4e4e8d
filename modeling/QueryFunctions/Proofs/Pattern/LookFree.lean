import QueryFunctions.Proofs.Pattern.EmptyMatch
import QueryFunctions.Proofs.Pattern.LiteralMode

/-! Patterns without conditions on places. Whether such a pattern matches the empty text does not
depend on what stands around it, so it does at every place of every text or at none. A pattern
that is written without anchors means one of them, and so does every text that is taken as a
pattern, be case ignored or not. -/

namespace QueryFunctions.CodeSet

/-- The union of two sets has elements if one of them has: it begins where the first of them
begins. -/
theorem isEmpty_union {s t : CodeSet} (h : s.isEmpty = false ∨ t.isEmpty = false) :
    (s.union t).isEmpty = false := by
  obtain ⟨as⟩ := s
  obtain ⟨bs⟩ := t
  unfold union combine
  cases as with
  | nil =>
    cases bs with
    | nil => simp [isEmpty] at h
    | cons b bs => simp [merge, isEmpty]
  | cons a as =>
    cases bs with
    | nil => simp [merge, isEmpty]
    | cons b bs =>
      have hfuel : (a :: as).length + (b :: bs).length = as.length + bs.length + 1 + 1 := by
        simp only [List.length_cons]
        omega
      dsimp only
      rw [hfuel, merge]
      split_ifs <;> simp_all [isEmpty]

theorem isEmpty_foldl_union {sets : List CodeSet} {s t : CodeSet} (hs : s.isEmpty = false)
    (h : t.isEmpty = false ∨ s ∈ sets) : (sets.foldl union t).isEmpty = false := by
  induction sets generalizing t with
  | nil => exact h.resolve_right List.not_mem_nil
  | cons first sets ih =>
    refine ih ?_
    rcases h with h | h
    · exact .inl (isEmpty_union (.inl h))
    · rcases List.mem_cons.mp h with rfl | h
      · exact .inl (isEmpty_union (.inr hs))
      · exact .inr h

theorem isEmpty_unions {sets : List CodeSet} {s : CodeSet} (hs : s.isEmpty = false)
    (h : s ∈ sets) : (unions sets).isEmpty = false :=
  isEmpty_foldl_union hs (.inr h)

end QueryFunctions.CodeSet

namespace QueryFunctions.Pattern

namespace Expr

/-- Patterns in which no condition on a place stands. -/
inductive LookFree : Expr → Prop
  | empty : LookFree .empty
  | literal (text : List Char) : LookFree (.literal text)
  | chars (set : CodeSet) : LookFree (.chars set)
  | repeated (min : Nat) (max : Option Nat) (greedy : Bool) {body : Expr} (h : LookFree body) :
    LookFree (.repeated min max greedy body)
  | group (index : Nat) (name : Option String) {body : Expr} (h : LookFree body) :
    LookFree (.group index name body)
  | row {items : List Expr} (h : ∀ e ∈ items, LookFree e) : LookFree (.row items)
  | choice {branches : List Expr} (h : ∀ e ∈ branches, LookFree e) : LookFree (.choice branches)

/-! ### The empty text -/

section

variable {before after before' after' : Option Char} {es : List Expr}

theorem allVanish_congr
    (h : ∀ e ∈ es, e.vanishes before after = e.vanishes before' after') :
    allVanish before after es = allVanish before' after' es := by
  induction es with
  | nil => rfl
  | cons e es ih =>
    obtain ⟨he, hes⟩ := List.forall_mem_cons.mp h
    rw [allVanish, allVanish, he, ih hes]

theorem anyVanishes_congr
    (h : ∀ e ∈ es, e.vanishes before after = e.vanishes before' after') :
    anyVanishes before after es = anyVanishes before' after' es := by
  induction es with
  | nil => rfl
  | cons e es ih =>
    obtain ⟨he, hes⟩ := List.forall_mem_cons.mp h
    rw [anyVanishes, anyVanishes, he, ih hes]

theorem LookFree.vanishes_eq {e : Expr} (h : e.LookFree) :
    e.vanishes before after = e.vanishes before' after' := by
  induction h with
  | empty => rfl
  | literal text => rfl
  | chars set => rfl
  | repeated min max greedy _ ih => rw [vanishes, vanishes, ih]
  | group index name _ ih => rw [vanishes, vanishes, ih]
  | row _ ih => exact allVanish_congr ih
  | choice _ ih => exact anyVanishes_congr ih

end

theorem LookFree.emptyAt_iff {e : Expr} (h : e.LookFree) (text : List Char) (i : Nat) :
    e.EmptyAt text i ↔ e.EmptyAt [] 0 := by
  rw [← vanishes_iff, ← vanishes_iff, h.vanishes_eq]

/-! ### Constructors -/

namespace LookFree

theorem ofSet (set : CodeSet) : LookFree (ofSet set) := ofSet_of .literal .chars set

theorem times {e : Expr} (h : LookFree e) (min : Nat) (max : Option Nat) (greedy : Bool) :
    LookFree (e.times min max greedy) :=
  times_of .empty (fun min max greedy => .repeated min max greedy h) h min max greedy

theorem of_row {items : List Expr} (h : LookFree (.row items)) : ∀ e ∈ items, LookFree e := by
  cases h with
  | row h => exact h

theorem of_choice {branches : List Expr} (h : LookFree (.choice branches)) :
    ∀ e ∈ branches, LookFree e := by
  cases h with
  | choice h => exact h

theorem rowOf {es : List Expr} (h : ∀ e ∈ es, LookFree e) : LookFree (rowOf es) :=
  rowOf_of .empty .literal of_row .row h

theorem choiceFrom (fuel : Nat) {es : List Expr} (h : ∀ e ∈ es, LookFree e) :
    LookFree (choiceFrom fuel es) :=
  choiceFrom_of ofSet rowOf of_row (branchesOf_of of_choice) .choice fuel h

theorem kept : Kept LookFree where
  empty := .empty
  literal := .literal
  ofSet := .ofSet
  times := .times
  group := fun h index name => .group index name h
  rowOf := .rowOf
  choiceFrom := .choiceFrom

end LookFree

end Expr

/-- What a construct without anchors means has no conditions on places. -/
theorem Node.expr_lookFree {node : Node} {e : Expr} (hfree : node.hasAnchor = false)
    (h : node.expr = .ok e) : e.LookFree :=
  Expr.LookFree.kept.expr node (fun hanchor => by simp [hfree] at hanchor) h

/-! ### Patterns with a least length -/

namespace Expr

theorem isSome_minSum_iff {es : List Expr} :
    (minSum es).isSome = true ↔ ∀ e ∈ es, e.minLength.isSome = true := by
  induction es with
  | nil => simp [minSum]
  | cons e es ih =>
    rw [List.forall_mem_cons, ← ih, minSum]
    cases e.minLength <;> cases minSum es <;> simp

theorem isSome_minLength_rowOf {es : List Expr} (h : ∀ e ∈ es, e.minLength.isSome = true) :
    (rowOf es).minLength.isSome = true :=
  rowOf_of (P := fun e => e.minLength.isSome = true) rfl (fun _ => rfl) isSome_minSum_iff.mp
    isSome_minSum_iff.mpr h

theorem isSome_minLength_ofSet {set : CodeSet} (h : set.isEmpty = false) :
    (ofSet set).minLength.isSome = true := by
  unfold ofSet
  split
  · rfl
  · rw [minLength, h]
    rfl

theorem lookup?_of_minLength {e : Expr} (h : e.minLength.isSome = true) : e.lookup? = none := by
  obtain ⟨n, hn⟩ := Option.isSome_iff_exists.mp h
  unfold lookup?
  rw [hn]
  rfl

end Expr

/-! ### Texts -/

/-- A character that is read as one has a least length, with its cases or without. -/
theorem isSome_minLength_literalExpr {modes : Modes} {lit : Literal} {e : Expr}
    (hchar : modes.byChar = true) (h : literalExpr modes lit = .ok e) :
    e.minLength.isSome = true := by
  unfold literalExpr at h
  simp only [hchar, if_true] at h
  split_ifs at h
  · obtain rfl := Except.ok.inj h
    have hself : (CodeSet.single lit.char.toNat).isEmpty = false := by
      simp [CodeSet.single, CodeSet.ofRange, CodeSet.isEmpty]
    refine Expr.isSome_minLength_ofSet (CodeSet.isEmpty_unions hself ?_)
    exact List.mem_map_of_mem List.mem_cons_self
  · obtain rfl := Except.ok.inj h
    rfl

theorem mem_exprs {nodes : List Node} {es : List Expr} (h : Node.exprs nodes = .ok es) :
    ∀ e ∈ es, ∃ node ∈ nodes, node.expr = .ok e := by
  induction nodes generalizing es with
  | nil =>
    obtain rfl := Except.ok.inj h
    simp
  | cons node nodes ih =>
    obtain ⟨first, hfirst, h⟩ := bind_ok h
    obtain ⟨rest, hrest, h⟩ := bind_ok h
    obtain rfl := Except.ok.inj h
    refine List.forall_mem_cons.mpr ⟨⟨node, List.mem_cons_self, hfirst⟩, fun e he => ?_⟩
    obtain ⟨later, hmem, hlater⟩ := ih hrest e he
    exact ⟨later, List.mem_cons_of_mem _ hmem, hlater⟩

/-- A text that is taken as a pattern means one without conditions on places, which is not
looked up. -/
theorem exprOf_escape_lookFree {modes : Modes} {text : List Char} {e : Expr}
    (hchar : modes.byChar = true) (hverbose : modes.verbose = false)
    (h : exprOf modes (escape text) = .ok e) : e.LookFree ∧ e.lookup? = none := by
  obtain ⟨lits, start, stop, -, hread⟩ := readPattern_escape hverbose text
  rw [exprOf, hread] at h
  change (Row.node _ stop).expr = _ at h
  rw [Row.node_expr, List.reverse_reverse] at h
  obtain ⟨es, hes, rfl⟩ := map_ok h
  have hitems : ∀ e ∈ es, e.LookFree ∧ e.minLength.isSome = true := by
    intro e he
    obtain ⟨node, hnode, hexpr⟩ := mem_exprs hes e he
    obtain ⟨lit, -, rfl⟩ := List.mem_map.mp hnode
    exact ⟨Node.expr_lookFree rfl hexpr, isSome_minLength_literalExpr hchar hexpr⟩
  exact ⟨.rowOf fun e he => (hitems e he).1,
    Expr.lookup?_of_minLength (Expr.isSome_minLength_rowOf fun e he => (hitems e he).2)⟩

end QueryFunctions.Pattern
