import Mathlib.Tactic.SplitIfs
import QueryFunctions.Pattern.Grammar
import QueryFunctions.Pattern.Meaning
import QueryFunctions.Proofs.Pattern.Success

/-! Normal forms of patterns. The expressions that constructs mean are flat: a row holds
neither rows nor empty patterns nor neighbouring literals, and so making a row of it alone
changes nothing. It follows that what a row of constructs means is the row of what they
mean, however many they are, and that a construct that means nothing may be left out. -/

namespace QueryFunctions.Pattern

namespace Expr

/-! ### Sets and repetitions -/

theorem ofSet_of {P : Expr → Prop} (hliteral : ∀ text, P (.literal text))
    (hchars : ∀ set, P (.chars set)) (set : CodeSet) : P (ofSet set) := by
  unfold ofSet
  split
  · exact hliteral _
  · exact hchars _

theorem times_of {P : Expr → Prop} {e : Expr} (hempty : P .empty)
    (hrepeated : ∀ min max greedy, P (.repeated min max greedy e)) (h : P e)
    (min : Nat) (max : Option Nat) (greedy : Bool) : P (e.times min max greedy) := by
  unfold times
  dsimp only
  split_ifs
  all_goals first
    | exact h
    | exact hempty
    | exact hrepeated _ _ _

/-! ### Rows -/

/-- A row in which no item can be joined to the ones after it, and none is a row. -/
def Settled : List Expr → Prop
  | [] => True
  | e :: es => consItem e es = e :: es ∧ e.theRow? = none ∧ Settled es

theorem foldr_of_settled {es : List Expr} (h : Settled es) : es.foldr consItem [] = es := by
  induction es with
  | nil => rfl
  | cons e es ih => rw [List.foldr_cons, ih h.2.2, h.1]

theorem settled_consItem {e : Expr} {es : List Expr} (he : e.theRow? = none) (h : Settled es) :
    Settled (consItem e es) := by
  unfold consItem
  split
  case h_1 => exact h
  case h_2 s t items =>
    refine ⟨?_, rfl, h.2.2⟩
    have ht := h.1
    cases items with
    | nil => rfl
    | cons next items => cases next <;> first | rfl | simp [consItem] at ht
  case h_3 hempty hliteral =>
    refine ⟨?_, he, h⟩
    unfold consItem
    split
    case h_1 => exact absurd rfl hempty
    case h_2 => exact absurd rfl (hliteral _ _ _ rfl)
    case h_3 => rfl

theorem settled_foldr {es : List Expr} (h : ∀ e ∈ es, e.theRow? = none) :
    Settled (es.foldr consItem []) := by
  induction es with
  | nil => trivial
  | cons e es ih =>
    have hes := ih fun e' he' => h e' (List.mem_cons_of_mem _ he')
    exact settled_consItem (h e List.mem_cons_self) hes

/-- An item of a row is one that was put in, or literals joined. -/
theorem mem_consItem {x e : Expr} {es : List Expr} (h : x ∈ consItem e es) :
    x = e ∨ x ∈ es ∨ ∃ text, x = .literal text := by
  unfold consItem at h
  split at h
  case h_1 => exact .inr (.inl h)
  case h_2 s t items =>
    rcases List.mem_cons.mp h with rfl | h
    · exact .inr (.inr ⟨_, rfl⟩)
    · exact .inr (.inl (List.mem_cons_of_mem _ h))
  case h_3 => exact (List.mem_cons.mp h).imp_right .inl

theorem mem_foldr_consItem {x : Expr} {es : List Expr} (h : x ∈ es.foldr consItem []) :
    x ∈ es ∨ ∃ text, x = .literal text := by
  induction es with
  | nil => simp at h
  | cons e es ih =>
    rcases mem_consItem h with rfl | h | h
    · exact .inl List.mem_cons_self
    · exact (ih h).imp_left (List.mem_cons_of_mem _)
    · exact .inr h

/-- The items of a pattern have what rows hand down to their items. -/
theorem rowItems_of {P : Expr → Prop} (hitems : ∀ {items}, P (.row items) → ∀ e ∈ items, P e)
    {e : Expr} (h : P e) : ∀ x ∈ e.rowItems, P x := by
  cases e with
  | row items => exact hitems h
  | _ => exact List.forall_mem_singleton.mpr h

/-- What literals have, and rows exactly if their items have it, the row of some patterns has
if they do. -/
theorem rowOf_of {P : Expr → Prop} (hempty : P .empty) (hliteral : ∀ text, P (.literal text))
    (hitems : ∀ {items}, P (.row items) → ∀ e ∈ items, P e)
    (hrow : ∀ {items}, (∀ e ∈ items, P e) → P (.row items)) {es : List Expr}
    (h : ∀ e ∈ es, P e) : P (rowOf es) := by
  have hall : ∀ x ∈ (es.flatMap rowItems).foldr consItem [], P x := by
    intro x hx
    rcases mem_foldr_consItem hx with hx | ⟨text, rfl⟩
    · obtain ⟨e, he, hx⟩ := List.mem_flatMap.mp hx
      exact rowItems_of hitems (h e he) x hx
    · exact hliteral text
  unfold rowOf
  split
  case h_1 => exact hempty
  case h_2 e heq => exact hall e (heq ▸ List.mem_singleton_self e)
  case h_3 => exact hrow hall

/-! ### Choices -/

/-- The branches of a pattern have what choices hand down to their branches. -/
theorem branchesOf_of {P : Expr → Prop}
    (hbranches : ∀ {branches}, P (.choice branches) → ∀ e ∈ branches, P e) {e : Expr}
    (h : P e) : ∀ x ∈ e.branchesOf, P x := by
  cases e with
  | choice branches => exact hbranches h
  | _ => exact List.forall_mem_singleton.mpr h

theorem mem_of_mapM_theRow? {es : List Expr} {rows : List (List Expr)}
    (h : es.mapM theRow? = some rows) : ∀ row ∈ rows, .row row ∈ es := by
  induction es generalizing rows with
  | nil =>
    obtain rfl : [] = rows := by simpa using h
    simp
  | cons e es ih =>
    rw [List.mapM_cons] at h
    obtain ⟨first, hfirst, h⟩ := Option.bind_eq_some_iff.mp h
    obtain ⟨rest, hrest, h⟩ := Option.bind_eq_some_iff.mp h
    obtain rfl : first :: rest = rows := by simpa using h
    have he : e = .row first := by
      cases e <;> simp [Expr.theRow?] at hfirst
      rw [hfirst]
    refine List.forall_mem_cons.mpr ⟨he ▸ List.mem_cons_self, fun row hrow => ?_⟩
    exact List.mem_cons_of_mem _ (ih hrest row hrow)

/-- What rows begin with alike, and what is left of them, comes from the rows. -/
theorem of_commonStart? {P : Expr → Prop} {es start : List Expr} {rests : List (List Expr)}
    (h : ∀ items, .row items ∈ es → ∀ e ∈ items, P e)
    (hstart : commonStart? es = some (start, rests)) :
    (∀ e ∈ start, P e) ∧ ∀ rest ∈ rests, ∀ e ∈ rest, P e := by
  unfold commonStart? at hstart
  obtain ⟨rows, hrows, hstart⟩ := Option.bind_eq_some_iff.mp hstart
  have hitems : ∀ row ∈ rows, ∀ e ∈ row, P e := fun row hrow =>
    h row (mem_of_mapM_theRow? hrows row hrow)
  cases rows with
  | nil => simp at hstart
  | cons first rest =>
    dsimp only at hstart
    split_ifs at hstart
    obtain ⟨rfl, rfl⟩ := Prod.mk.inj (Option.some.inj hstart)
    refine ⟨fun e he => hitems first List.mem_cons_self e (List.mem_of_mem_take he), ?_⟩
    intro later hlater e he
    obtain ⟨row, hrow, rfl⟩ := List.mem_map.mp hlater
    exact hitems row hrow e (List.mem_of_mem_drop he)

/-- What sets, rows and choices of patterns keep, and what rows and choices hand down to what
they are made of, the choice keeps that takes common starts out. -/
theorem choiceFrom_of {P : Expr → Prop} (hset : ∀ set, P (ofSet set))
    (hrow : ∀ {es}, (∀ e ∈ es, P e) → P (rowOf es))
    (hitems : ∀ {items}, P (.row items) → ∀ e ∈ items, P e)
    (hbranches : ∀ {e}, P e → ∀ x ∈ e.branchesOf, P x)
    (hchoice : ∀ {es}, (∀ e ∈ es, P e) → P (.choice es)) (fuel : Nat) {es : List Expr}
    (h : ∀ e ∈ es, P e) : P (choiceFrom fuel es) := by
  induction fuel using Nat.strongRecOn generalizing es with
  | _ fuel ih =>
    have hall : ∀ x ∈ es.flatMap branchesOf, P x := by
      intro x hx
      obtain ⟨e, he, hx⟩ := List.mem_flatMap.mp hx
      exact hbranches (h e he) x hx
    unfold choiceFrom
    split
    case h_1 => exact hset .empty
    case h_2 e heq => exact hall e (heq ▸ List.mem_singleton_self e)
    case h_3 =>
      split
      case h_1 => exact hset _
      case h_2 =>
        split
        case h_1 => exact hset _
        case h_2 =>
          split
          case h_1 fuel start rests hstart =>
            obtain ⟨hfirst, hrests⟩ := of_commonStart? (fun items hmem => hitems (hall _ hmem)) hstart
            refine hrow fun x hx => ?_
            rcases List.mem_append.mp hx with hx | hx
            · exact hfirst x hx
            · obtain rfl := List.mem_singleton.mp hx
              refine ih fuel (Nat.lt_succ_self fuel) fun e he => ?_
              obtain ⟨rest, hrest, rfl⟩ := List.mem_map.mp he
              exact hrow (hrests rest hrest)
          case h_2 => exact hchoice hall

/-! ### Flat patterns -/

theorem rowItems_of_theRow? {e : Expr} (h : e.theRow? = none) : e.rowItems = [e] := by
  cases e <;> first | rfl | simp [theRow?] at h

theorem Settled.theRow? {es : List Expr} (h : Settled es) : ∀ e ∈ es, e.theRow? = none := by
  induction es with
  | nil => simp
  | cons e es ih => exact List.forall_mem_cons.mpr ⟨h.2.1, ih h.2.2⟩

/-- Patterns whose row, if they are one, is settled and longer than one item; of a choice this
is asked of the branches. -/
inductive Flat : Expr → Prop
  | row {items : List Expr} (settled : Settled items) (length : 2 ≤ items.length)
    (flat : ∀ e ∈ items, Flat e) : Flat (.row items)
  | choice {branches : List Expr} (flat : ∀ e ∈ branches, Flat e) : Flat (.choice branches)
  | other {e : Expr} (row : e.theRow? = none) (choice : e.branchesOf = [e]) : Flat e

namespace Flat

theorem literal (text : List Char) : Flat (.literal text) := .other rfl rfl

theorem chars (set : CodeSet) : Flat (.chars set) := .other rfl rfl

theorem ofSet (set : CodeSet) : Flat (ofSet set) := ofSet_of .literal .chars set

theorem mem_rowItems {e x : Expr} (h : Flat e) (hx : x ∈ e.rowItems) :
    Flat x ∧ x.theRow? = none := by
  cases h with
  | row settled length flat => exact ⟨flat x hx, settled.theRow? x hx⟩
  | choice flat =>
    obtain rfl := List.mem_singleton.mp hx
    exact ⟨.choice flat, rfl⟩
  | other hrow hchoice =>
    rw [rowItems_of_theRow? hrow] at hx
    obtain rfl := List.mem_singleton.mp hx
    exact ⟨.other hrow hchoice, hrow⟩

theorem mem_branchesOf {e x : Expr} (h : Flat e) (hx : x ∈ e.branchesOf) : Flat x := by
  cases h with
  | row settled length flat =>
    obtain rfl := List.mem_singleton.mp hx
    exact .row settled length flat
  | choice flat => exact flat x hx
  | other hrow hchoice =>
    rw [hchoice] at hx
    obtain rfl := List.mem_singleton.mp hx
    exact .other hrow hchoice

theorem rowOf_singleton {e : Expr} (h : Flat e) : rowOf [e] = e := by
  have hsingle {e : Expr} (hrow : e.theRow? = none) : rowOf [e] = e := by
    unfold rowOf
    rw [List.flatMap_singleton, rowItems_of_theRow? hrow]
    cases e <;> rfl
  cases h with
  | @row items settled length flat =>
    unfold rowOf
    simp only [List.flatMap_singleton, rowItems, foldr_of_settled settled]
    match items, length with
    | _ :: _ :: _, _ => rfl
  | choice flat => exact hsingle rfl
  | other hrow hchoice => exact hsingle hrow

theorem rowOf {es : List Expr} (h : ∀ e ∈ es, Flat e) : Flat (rowOf es) := by
  have hitems : ∀ x ∈ es.flatMap rowItems, Flat x ∧ x.theRow? = none := by
    intro x hx
    obtain ⟨e, he, hx⟩ := List.mem_flatMap.mp hx
    exact (h e he).mem_rowItems hx
  have hsettled := settled_foldr fun x hx => (hitems x hx).2
  have hflat : ∀ x ∈ (es.flatMap rowItems).foldr consItem [], Flat x := by
    intro x hx
    rcases mem_foldr_consItem hx with hx | ⟨text, rfl⟩
    · exact (hitems x hx).1
    · exact .literal text
  unfold Expr.rowOf
  split
  case h_1 => exact .other rfl rfl
  case h_2 e heq => exact hflat e (heq ▸ List.mem_singleton_self e)
  case h_3 hnil hsingle =>
    refine .row hsettled ?_ hflat
    match hlist : (es.flatMap rowItems).foldr consItem [] with
    | [] => exact absurd hlist hnil
    | [e] => exact absurd hlist (hsingle e)
    | _ :: _ :: _ => simp

theorem times {e : Expr} (h : Flat e) (min : Nat) (max : Option Nat) (greedy : Bool) :
    Flat (e.times min max greedy) :=
  times_of (.other rfl rfl) (fun _ _ _ => .other rfl rfl) h min max greedy

theorem choiceFrom (fuel : Nat) {es : List Expr} (h : ∀ e ∈ es, Flat e) :
    Flat (choiceFrom fuel es) :=
  choiceFrom_of ofSet rowOf (fun h _ he => (h.mem_rowItems he).1) (fun h _ hx => h.mem_branchesOf hx)
    .choice fuel h

end Flat

end Expr

/-! ### Meanings -/

mutual

def Node.hasAnchor : Node → Bool
  | .anchor _ _ _ => true
  | .repeated _ _ _ _ body => body.hasAnchor
  | .group _ _ body => body.hasAnchor
  | .sequence _ items => Node.anyHasAnchor items
  | .choice _ branches => Node.anyHasAnchor branches
  | _ => false

def Node.anyHasAnchor : List Node → Bool
  | [] => false
  | node :: nodes => node.hasAnchor || Node.anyHasAnchor nodes

end

/-- Properties of patterns that whatever makes a pattern of others keeps. -/
structure Expr.Kept (P : Expr → Prop) : Prop where
  empty : P .empty
  literal : ∀ text, P (.literal text)
  ofSet : ∀ set, P (ofSet set)
  times : ∀ {e}, P e → ∀ min max greedy, P (e.times min max greedy)
  group : ∀ {e}, P e → ∀ index name, P (.group index name e)
  rowOf : ∀ {es}, (∀ e ∈ es, P e) → P (rowOf es)
  choiceFrom : ∀ fuel {es}, (∀ e ∈ es, P e) → P (choiceFrom fuel es)

namespace Expr.Kept

variable {P : Expr → Prop}

theorem literalExpr (hP : Kept P) {modes : Modes} {lit : Literal} {e : Expr}
    (h : literalExpr modes lit = .ok e) : P e := by
  unfold Pattern.literalExpr at h
  dsimp only at h
  split_ifs at h
  all_goals first
    | (obtain rfl := Except.ok.inj h; first | exact hP.ofSet _ | exact hP.literal _)
    | cases h

theorem dotExpr (hP : Kept P) {modes : Modes} {span : Span} {e : Expr}
    (h : dotExpr modes span = .ok e) : P e := by
  unfold Pattern.dotExpr at h
  split_ifs at h
  all_goals first
    | (obtain rfl := Except.ok.inj h; exact hP.ofSet _)
    | cases h

mutual

theorem expr (hP : Kept P) : ∀ (node : Node) {e : Expr},
    (node.hasAnchor = true → ∀ condition, P (.look condition)) → node.expr = .ok e → P e
  | .nothing _, _, _, h => by
    obtain rfl := Except.ok.inj h
    exact hP.empty
  | .flags _, _, _, h => by
    obtain rfl := Except.ok.inj h
    exact hP.empty
  | .literal _ _, _, _, h => hP.literalExpr h
  | .dot _ _, _, _, h => hP.dotExpr h
  | .anchor _ _ _, _, hlook, h => by
    obtain rfl := Except.ok.inj h
    exact hlook rfl _
  | .property _ _ _ _, _, _, h => by
    obtain ⟨set, -, h⟩ := bind_ok h
    obtain rfl := Except.ok.inj h
    exact hP.ofSet _
  | .short _ _ _ _, _, _, h => by
    obtain ⟨set, -, h⟩ := bind_ok h
    obtain rfl := Except.ok.inj h
    exact hP.ofSet _
  | .bracketed _ _ _ _, _, _, h => by
    obtain ⟨inner, -, h⟩ := bind_ok h
    obtain ⟨set, -, h⟩ := bind_ok h
    obtain rfl := Except.ok.inj h
    exact hP.ofSet _
  | .repeated _ min max greedy body, _, hlook, h => by
    obtain ⟨inner, hinner, h⟩ := bind_ok h
    obtain rfl := Except.ok.inj h
    exact hP.times (hP.expr body hlook hinner) min max greedy
  | .group _ none body, _, hlook, h => hP.expr body hlook h
  | .group _ (some label) body, _, hlook, h => by
    obtain ⟨inner, hinner, h⟩ := bind_ok h
    obtain rfl := Except.ok.inj h
    exact hP.group (hP.expr body hlook hinner) label.index label.name
  | .sequence _ items, _, hlook, h => by
    obtain ⟨es, hes, h⟩ := bind_ok h
    obtain rfl := Except.ok.inj h
    exact hP.rowOf (hP.exprs items hlook hes)
  | .choice _ branches, _, hlook, h => by
    obtain ⟨es, hes, h⟩ := bind_ok h
    obtain rfl := Except.ok.inj h
    exact hP.choiceFrom _ (hP.exprs branches hlook hes)

theorem exprs (hP : Kept P) : ∀ (nodes : List Node) {es : List Expr},
    (Node.anyHasAnchor nodes = true → ∀ condition, P (.look condition)) →
      Node.exprs nodes = .ok es → ∀ e ∈ es, P e
  | [], _, _, h => by
    obtain rfl := Except.ok.inj h
    simp
  | node :: nodes, _, hlook, h => by
    obtain ⟨first, hfirst, h⟩ := bind_ok h
    obtain ⟨rest, hrest, h⟩ := bind_ok h
    obtain rfl := Except.ok.inj h
    have hnode : node.hasAnchor = true → ∀ condition, P (.look condition) :=
      fun hnode => hlook (Bool.or_eq_true_iff.mpr (.inl hnode))
    have hnodes : Node.anyHasAnchor nodes = true → ∀ condition, P (.look condition) :=
      fun hnodes => hlook (Bool.or_eq_true_iff.mpr (.inr hnodes))
    exact List.forall_mem_cons.mpr ⟨hP.expr node hnode hfirst, hP.exprs nodes hnodes hrest⟩

end

end Expr.Kept

theorem Expr.Flat.kept : Expr.Kept Expr.Flat where
  empty := .other rfl rfl
  literal := .literal
  ofSet := .ofSet
  times := .times
  group := fun _ _ _ => .other rfl rfl
  rowOf := .rowOf
  choiceFrom := .choiceFrom

theorem Node.expr_flat {node : Node} {e : Expr} (h : node.expr = .ok e) : e.Flat :=
  Expr.Flat.kept.expr node (fun _ _ => .other rfl rfl) h

/-- A row of constructs means the row of what they mean, be they none, one or more. -/
theorem Row.node_expr (row : Row) (stop : Nat) :
    (row.node stop).expr = (Node.exprs row.items.reverse).map Expr.rowOf := by
  obtain ⟨start, items⟩ := row
  match items with
  | [] => rfl
  | [item] =>
    change item.expr = ((item.expr >>= fun e => .ok [e]) : Meant (List Expr)).map Expr.rowOf
    cases hitem : item.expr with
    | error fault => rfl
    | ok e => exact congrArg Except.ok (Node.expr_flat hitem).rowOf_singleton.symm
  | second :: first :: items =>
    change (Node.sequence ⟨start, stop⟩ (second :: first :: items).reverse).expr = _
    rw [Node.expr]
    cases Node.exprs (second :: first :: items).reverse <;> rfl

end QueryFunctions.Pattern
