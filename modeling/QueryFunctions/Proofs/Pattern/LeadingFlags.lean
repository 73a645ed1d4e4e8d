import QueryFunctions.Proofs.Pattern.Flags
import QueryFunctions.Proofs.Pattern.NormalForm
import QueryFunctions.Proofs.Pattern.Progress

/-! Flags at the start of a pattern. A group of flags in front of a pattern leaves a construct
without meaning at the start of its first row, and the modes that it names; from there on the
pattern is read as it is read in these modes from the start. The two readings go in step: they
differ in the row, open group or choice at the bottom only, and there in nothing that is
meant. -/

namespace QueryFunctions.Pattern

/-! ### States in step -/

/-- What has been read of a pattern, alone and after flags at its start. Above the bottom of the
stack the two are the same. -/
inductive Leads (flags : Span) : Row → List Frame → Row → List Frame → Prop
  | row {row row' : Row} (items : row'.items = row.items ++ [.flags flags]) :
    Leads flags row [] row' []
  | choice (row : Row) (start start' : Nat) (branches : List Node) {first first' : Node}
    (meaning : first'.expr = first.expr) :
    Leads flags row [.choice start (branches ++ [first])]
      row [.choice start' (branches ++ [first'])]
  | group (row : Row) (span : Span) (label : Option GroupLabel) (outer : Modes)
    {before before' : Row} {stack stack' : List Frame}
    (below : Leads flags before stack before' stack') :
    Leads flags row (.group before span label outer :: stack)
      row (.group before' span label outer :: stack')
  | branch (row : Row) (start : Nat) (branches : List Node) (span : Span)
    (label : Option GroupLabel) (outer : Modes) {before before' : Row} {stack stack' : List Frame}
    (below : Leads flags before stack before' stack') :
    Leads flags row (.choice start branches :: .group before span label outer :: stack)
      row (.choice start branches :: .group before' span label outer :: stack')

/-- States that differ in the flags at the start of the pattern only. -/
inductive InStep (flags : Span) : State → State → Prop
  | mk (modes : Modes) (groups : Nat) (names : List (String × Span)) {row row' : Row}
    {stack stack' : List Frame} (rest : Leads flags row stack row' stack') :
    InStep flags ⟨modes, row, stack, groups, names⟩ ⟨modes, row', stack', groups, names⟩

variable {flags : Span}

/-- A row with flags at its start means what the row means. -/
theorem Row.node_expr_of_flags {row row' : Row} (h : row'.items = row.items ++ [.flags flags])
    (stop : Nat) : (row'.node stop).expr = (row.node stop).expr := by
  rw [Row.node_expr, Row.node_expr, h, List.reverse_append]
  change ((Node.exprs row.items.reverse >>= fun rest => .ok (.empty :: rest)) :
    Meant (List Expr)).map Expr.rowOf = _
  cases Node.exprs row.items.reverse <;> rfl

theorem Leads.push {row row' : Row} {stack stack' : List Frame}
    (h : Leads flags row stack row' stack') (node : Node) :
    Leads flags ⟨row.start, node :: row.items⟩ stack ⟨row'.start, node :: row'.items⟩ stack' := by
  cases h with
  | row items => exact .row (congrArg (node :: ·) items)
  | choice row start start' branches meaning => exact .choice _ start start' branches meaning
  | group row span label outer below => exact .group _ span label outer below
  | branch row start branches span label outer below =>
    exact .branch _ start branches span label outer below

theorem Leads.pop {row row' : Row} {stack stack' : List Frame}
    (h : Leads flags row stack row' stack') {node : Node} {items : List Node}
    (hitems : row.items = node :: items) :
    ∃ items', row'.items = node :: items' ∧
      Leads flags ⟨row.start, items⟩ stack ⟨row'.start, items'⟩ stack' := by
  cases h with
  | row hrow => exact ⟨items ++ [.flags flags], by rw [hrow, hitems]; rfl, .row rfl⟩
  | choice _ start start' branches meaning =>
    exact ⟨items, hitems, .choice _ start start' branches meaning⟩
  | group _ span label outer below => exact ⟨items, hitems, .group _ span label outer below⟩
  | branch _ start branches span label outer below =>
    exact ⟨items, hitems, .branch _ start branches span label outer below⟩

theorem Node.exprs_congr {nodes nodes' : List Node}
    (h : nodes.map Node.expr = nodes'.map Node.expr) : Node.exprs nodes = Node.exprs nodes' := by
  induction nodes generalizing nodes' with
  | nil =>
    obtain rfl := List.map_eq_nil_iff.mp h.symm
    rfl
  | cons node nodes ih =>
    obtain ⟨node', later, rfl, hnode, hlater⟩ := List.map_eq_cons_iff.mp h.symm
    rw [Node.exprs, Node.exprs, hnode, ih hlater.symm]

namespace InStep

variable {s s' : State}

theorem modes_eq (h : InStep flags s s') : s'.modes = s.modes := by
  cases h with
  | mk modes groups names rest => rfl

theorem names_eq (h : InStep flags s s') : s'.names = s.names := by
  cases h with
  | mk modes groups names rest => rfl

theorem withModes (h : InStep flags s s') (modes : Modes) :
    InStep flags { s with modes := modes } { s' with modes := modes } := by
  cases h with
  | mk outer groups names rest => exact .mk modes groups names rest

theorem push (h : InStep flags s s') (node : Node) : InStep flags (s.push node) (s'.push node) := by
  cases h with
  | mk modes groups names rest => exact .mk modes groups names (rest.push node)

theorem openGroup (h : InStep flags s s') (span : Span) (label : Option GroupLabel)
    (modes : Modes) (c : Cursor) :
    InStep flags (s.openGroup span label modes c) (s'.openGroup span label modes c) := by
  cases h with
  | mk outer groups names rest => exact .mk modes groups names (.group _ span label outer rest)

theorem openCapture (h : InStep flags s s') (span : Span) (name : Option (String × Span))
    (c : Cursor) : InStep flags (s.openCapture span name c) (s'.openCapture span name c) := by
  cases h with
  | mk modes groups names rest =>
    exact .mk modes (groups + 1) _ (.group _ span (some ⟨groups + 1, name.map (·.1)⟩) modes rest)

theorem branch (h : InStep flags s s') (c : Cursor) :
    InStep flags (s.branch c) (s'.branch c) := by
  cases h with
  | mk modes groups names rest =>
    refine .mk modes groups names ?_
    cases rest with
    | row items =>
      exact .choice _ _ _ [] (Row.node_expr_of_flags items c.left)
    | choice row start start' branches meaning =>
      exact .choice _ start start' (_ :: branches) meaning
    | group row span label outer below => exact .branch _ _ _ span label outer below
    | branch row start branches span label outer below => exact .branch _ _ _ span label outer below

theorem closeGroup (h : InStep flags s s') {c : Cursor} {t : State}
    (hclose : s.closeGroup c = .ok t) :
    ∃ t', s'.closeGroup c = .ok t' ∧ InStep flags t t' := by
  cases h with
  | mk modes groups names rest =>
    cases rest with
    | row items => cases hclose
    | choice _ start start' branches meaning => cases hclose
    | group row span label outer below =>
      obtain rfl := Except.ok.inj hclose
      exact ⟨_, rfl, .mk outer groups names (below.push _)⟩
    | branch row start branches span label outer below =>
      obtain rfl := Except.ok.inj hclose
      exact ⟨_, rfl, .mk outer groups names (below.push _)⟩

theorem finish (h : InStep flags s s') {c : Cursor} {node : Node}
    (hfinish : s.finish c = .ok node) :
    ∃ node', s'.finish c = .ok node' ∧ node'.expr = node.expr := by
  cases h with
  | mk modes groups names rest =>
    cases rest with
    | row items =>
      obtain rfl := Except.ok.inj hfinish
      exact ⟨_, rfl, Row.node_expr_of_flags items c.left⟩
    | choice _ start start' branches meaning =>
      obtain rfl := Except.ok.inj hfinish
      refine ⟨_, rfl, ?_⟩
      rw [Node.expr, Node.expr, Node.exprs_congr]
      simp [meaning]
    | group row span label outer below => cases hfinish
    | branch row start branches span label outer below => cases hfinish

theorem repeatable (h : InStep flags s s') {c : Cursor} {node : Node} {t : State}
    (hrepeat : s.repeatable c = .ok (node, t)) :
    ∃ t', s'.repeatable c = .ok (node, t') ∧ InStep flags t t' := by
  cases h with
  | mk modes groups names rest =>
    unfold State.repeatable at hrepeat
    split at hrepeat
    case h_1 => cases hrepeat
    case h_2 => cases hrepeat
    case h_3 => cases hrepeat
    case h_4 last items hnothing hflags hitems =>
      obtain ⟨rfl, rfl⟩ := Prod.mk.inj (Except.ok.inj hrepeat)
      obtain ⟨items', hitems', hleads⟩ := rest.pop hitems
      refine ⟨⟨modes, ⟨_, items'⟩, _, groups, names⟩, ?_, .mk modes groups names hleads⟩
      unfold State.repeatable
      simp only [hitems']

end InStep

/-! ### Parts in step -/

/-- Two steps of reading, the second of which succeeds and stays in step where the first one
succeeds. -/
def Mirrors (flags : Span) (step step' : Except Fault (State × Cursor)) : Prop :=
  ∀ t after, step = .ok (t, after) → ∃ t', step' = .ok (t', after) ∧ InStep flags t t'

theorem Mirrors.error (fault : Fault) (step' : Except Fault (State × Cursor)) :
    Mirrors flags (.error fault) step' := by
  intro t after h
  cases h

theorem Mirrors.ok {t t' : State} (h : InStep flags t t') (after : Cursor) :
    Mirrors flags (.ok (t, after)) (.ok (t', after)) := by
  intro u stop hu
  obtain ⟨rfl, rfl⟩ := Prod.mk.inj (Except.ok.inj hu)
  exact ⟨t', rfl, h⟩

/-- Steps go on in step after what is read in both of them. -/
theorem Mirrors.bind {α : Type} (x : Except Fault α)
    {next next' : α → Except Fault (State × Cursor)}
    (h : ∀ a, Mirrors flags (next a) (next' a)) : Mirrors flags (x >>= next) (x >>= next') := by
  cases x with
  | error fault => exact .error fault _
  | ok a => exact h a

namespace InStep

variable {s s' : State}

theorem pushRepeated (h : InStep flags s s') (body : Node) (min : Nat) (max : Option Nat)
    (lazily : Bool) (stop : Nat) :
    InStep flags (s.repeat body min max lazily stop) (s'.repeat body min max lazily stop) := by
  cases h with
  | mk modes groups names rest => exact (InStep.mk modes groups names rest).push _

theorem repeatable_bind (h : InStep flags s s') (c : Cursor)
    {next next' : Node × State → Except Fault (State × Cursor)}
    (hnext : ∀ body t t', InStep flags t t' → Mirrors flags (next (body, t)) (next' (body, t'))) :
    Mirrors flags (s.repeatable c >>= next) (s'.repeatable c >>= next') := by
  intro u after hu
  obtain ⟨⟨body, t⟩, hbody, hu⟩ := bind_ok hu
  obtain ⟨t', ht', hstep⟩ := h.repeatable hbody
  rw [ht']
  exact hnext body t t' hstep u after hu

theorem readRepetition (h : InStep flags s s') (min : Nat) (max : Option Nat) (c : Cursor) :
    Mirrors flags (readRepetition s min max c) (readRepetition s' min max c) := by
  refine h.repeatable_bind c fun body t t' ht => ?_
  dsimp only
  split_ifs
  · exact .ok (ht.pushRepeated ..) _
  · exact .ok (ht.pushRepeated ..) _

theorem readCounted (h : InStep flags s s') (c : Cursor) :
    Mirrors flags (readCounted s c) (readCounted s' c) := by
  unfold Pattern.readCounted
  dsimp only
  rw [h.modes_eq]
  refine h.repeatable_bind c fun body t t' ht => ?_
  dsimp only
  split_ifs
  · exact .error _ _
  · refine .bind _ fun ⟨least, most, stop⟩ => ?_
    dsimp only
    split_ifs
    all_goals first
      | exact .error _ _
      | exact .ok (ht.pushRepeated ..) _

theorem readFlagGroup (h : InStep flags s s') (span : Span) (mark c : Cursor) :
    Mirrors flags (readFlagGroup s span mark c) (readFlagGroup s' span mark c) := by
  unfold Pattern.readFlagGroup
  dsimp only
  rw [h.modes_eq]
  split_ifs
  · exact .error _ _
  · refine .bind _ fun ⟨list, stop⟩ => ?_
    dsimp only
    split_ifs
    · exact .error _ _
    · exact .ok ((h.push _).withModes list.modes) _
    · exact .ok (h.openGroup ..) _

theorem readGroup (h : InStep flags s s') (c : Cursor) :
    Mirrors flags (readGroup s c) (readGroup s' c) := by
  unfold Pattern.readGroup
  dsimp only
  rw [h.modes_eq, h.names_eq]
  split
  case h_5 => exact .bind _ fun ⟨name, nameSpan, after⟩ => .ok (h.openCapture ..) after
  case h_6 => exact .bind _ fun ⟨name, nameSpan, after⟩ => .ok (h.openCapture ..) after
  case h_7 => exact h.readFlagGroup _ _ _
  case h_8 => exact .ok (h.openCapture ..) _
  all_goals exact .error _ _

/-- Reading a part keeps the two states in step. -/
theorem readPart (h : InStep flags s s') (c : Cursor) (char : Char) :
    Mirrors flags (readPart s c char) (readPart s' c char) := by
  unfold Pattern.readPart
  dsimp only
  rw [h.modes_eq]
  split
  case h_1 => exact h.readGroup c
  case h_2 =>
    intro t after ht
    obtain ⟨closed, hclosed, ht⟩ := bind_ok ht
    obtain ⟨closed', hclosed', hstep⟩ := h.closeGroup hclosed
    rw [hclosed']
    exact Mirrors.ok hstep c.next t after ht
  case h_3 => exact .ok (h.branch c) _
  case h_4 => exact .bind _ fun ⟨bracket, after⟩ => .ok (h.push _) after
  case h_5 => exact h.readRepetition _ _ c
  case h_6 => exact h.readRepetition _ _ c
  case h_7 => exact h.readRepetition _ _ c
  case h_8 => exact h.readCounted c
  case h_9 => exact .bind _ fun ⟨primitive, after⟩ => .ok (h.push _) after
  all_goals exact .ok (h.push _) _

/-- Reading on keeps the two states in step to the end, where they mean the same. -/
theorem readFrom (fuel : Nat) : ∀ {s s' : State} {c : Cursor} {node : Node},
    InStep flags s s' → readFrom fuel s c = .ok node →
      ∃ node', readFrom fuel s' c = .ok node' ∧ node'.expr = node.expr := by
  induction fuel with
  | zero =>
    intro s s' c node h hread
    unfold Pattern.readFrom at hread ⊢
    rw [h.modes_eq]
    exact h.finish hread
  | succ fuel ih =>
    intro s s' c node h hread
    cases hrest : (c.skip s.modes.verbose).rest with
    | nil =>
      rw [readFrom_end hrest] at hread
      rw [readFrom_end (by rw [h.modes_eq, hrest]), h.modes_eq]
      exact h.finish hread
    | cons char cs =>
      rw [readFrom_part hrest] at hread
      rw [readFrom_part (by rw [h.modes_eq, hrest]), h.modes_eq]
      obtain ⟨⟨t, after⟩, hpart, hread⟩ := bind_ok hread
      obtain ⟨t', hpart', hstep⟩ := h.readPart _ _ t after hpart
      rw [hpart']
      exact ih hstep hread

end InStep

/-! ### Flags at the start -/

/-- A flag that a set does not have has not been seen. -/
structure Unseen (seen : List (Flag × Span)) (set : FlagSet) : Prop where
  ignoreCase : set.ignoreCase = false → seen.lookup .ignoreCase = none
  multiLine : set.multiLine = false → seen.lookup .multiLine = none
  dotAll : set.dotAll = false → seen.lookup .dotAll = none

/-- A letter that adds a flag to a set is a flag in patterns too, which has not been seen and
switches the same mode. -/
theorem flagNamed?_of_add {set more : FlagSet} {c : Char} (hadd : set.add c = .ok more)
    (hq : c ≠ 'q') {seen : List (Flag × Span)} (hseen : Unseen seen set) (span : Span) :
    (c = 'i' ∨ c = 'm' ∨ c = 's') ∧ ∃ flag, flagNamed? c = some flag ∧
      seen.lookup flag = none ∧ set.modes.set flag true = more.modes ∧
      Unseen ((flag, span) :: seen) more := by
  unfold FlagSet.add FlagSet.flag? at hadd
  split at hadd
  case h_1 => cases hadd
  case h_2 => cases hadd
  case h_3 later hlater =>
    obtain rfl := Except.ok.inj hadd
    split at hlater
    case h_1 =>
      obtain ⟨hoff, rfl⟩ := Prod.mk.inj (Option.some.inj hlater)
      exact ⟨.inl rfl, .ignoreCase, rfl, hseen.ignoreCase hoff, rfl,
        ⟨by simp, hseen.multiLine, hseen.dotAll⟩⟩
    case h_2 =>
      obtain ⟨hoff, rfl⟩ := Prod.mk.inj (Option.some.inj hlater)
      exact ⟨.inr (.inl rfl), .multiLine, rfl, hseen.multiLine hoff, rfl,
        ⟨hseen.ignoreCase, by simp, hseen.dotAll⟩⟩
    case h_3 =>
      obtain ⟨hoff, rfl⟩ := Prod.mk.inj (Option.some.inj hlater)
      exact ⟨.inr (.inr rfl), .dotAll, rfl, hseen.dotAll hoff, rfl,
        ⟨hseen.ignoreCase, hseen.multiLine, by simp⟩⟩
    case h_4 => exact absurd rfl hq
    case h_5 => cases hlater

/-- Flags that name a set are read in patterns as the modes of the set. -/
theorem readFlags_letters (letters rest : List Char) : ∀ {set more : FlagSet}
    {seen : List (Flag × Span)} (left : Nat), set.addAll letters = .ok more →
      'q' ∉ letters → Unseen seen set →
      ∃ seen', readFlags ⟨set.modes, seen, none, false⟩ left (letters ++ ')' :: rest) =
          .ok (⟨more.modes, seen', none, false⟩, ⟨left - letters.length, ')' :: rest⟩) ∧
        seen.length + letters.length = seen'.length := by
  induction letters with
  | nil =>
    intro set more seen left hadd _ _
    obtain rfl := Except.ok.inj hadd
    refine ⟨seen, ?_, rfl⟩
    unfold readFlags
    simp
  | cons c cs ih =>
    intro set more seen left hadd hq hseen
    rw [List.mem_cons, not_or] at hq
    obtain ⟨next, hnext, hadd⟩ := bind_ok hadd
    obtain ⟨hletter, flag, hflag, hlookup, hmodes, hseen'⟩ :=
      flagNamed?_of_add hnext (Ne.symm hq.1) hseen ⟨left, left - 1⟩
    obtain ⟨seen', hread, hlength⟩ := ih (left - 1) hadd hq.2 hseen'
    refine ⟨seen', ?_, by simp at hlength ⊢; omega⟩
    have hplain : c ≠ ':' ∧ c ≠ ')' ∧ c ≠ '-' := by
      rcases hletter with rfl | rfl | rfl <;> decide
    have hleft : left - (c :: cs).length = left - 1 - cs.length := by
      rw [List.length_cons]
      omega
    rw [List.cons_append, readFlags, hleft, ← hread]
    simp [hplain, hflag, hlookup, hmodes]

/-- A pattern after a group of flags. -/
def withFlags (letters pattern : List Char) : List Char :=
  '(' :: '?' :: (letters ++ ')' :: pattern)

/-- Reading a group of flags at the start leaves a construct without meaning and the modes of
the flags. -/
theorem readPart_withFlags {letters pattern : List Char} {set : FlagSet}
    (hletters : FlagSet.addAll {} letters = .ok set) (hq : 'q' ∉ letters) (hne : letters ≠ [])
    (start left : Nat) : ∃ flags, readPart { modes := {}, row := ⟨start, []⟩ }
        ⟨left, withFlags letters pattern⟩ '(' =
      .ok (⟨set.modes, ⟨start, [.flags flags]⟩, [], 0, []⟩,
        ⟨left - (letters.length + 3), pattern⟩) := by
  have hunseen : Unseen [] {} := ⟨fun _ => rfl, fun _ => rfl, fun _ => rfl⟩
  obtain ⟨seen, hread, hlength⟩ :=
    readFlags_letters letters pattern (left - 1 - 1) hletters hq hunseen
  obtain ⟨c, cs, rfl⟩ := List.exists_cons_of_ne_nil hne
  obtain ⟨next, hnext, -⟩ := bind_ok hletters
  rw [List.mem_cons, not_or] at hq
  obtain ⟨hletter, -⟩ := flagNamed?_of_add hnext (Ne.symm hq.1) hunseen ⟨left, left⟩
  have hgroup : readPart { modes := {}, row := ⟨start, []⟩ }
      ⟨left, withFlags (c :: cs) pattern⟩ '(' =
      readFlagGroup { modes := {}, row := ⟨start, []⟩ } ⟨left, left - 1⟩
        ⟨left - 1, '?' :: (c :: cs ++ ')' :: pattern)⟩
        ⟨left - 1 - 1, c :: cs ++ ')' :: pattern⟩ := by
    rcases hletter with rfl | rfl | rfl <;> rfl
  obtain ⟨first, more, rfl⟩ : ∃ first more, seen = first :: more := by
    refine List.exists_cons_of_length_pos ?_
    rw [← hlength]
    simp
  have hplace : left - 1 - 1 - (c :: cs).length - 1 = left - ((c :: cs).length + 3) := by omega
  refine ⟨⟨left, left - 1 - 1 - (c :: cs).length - 1⟩, ?_⟩
  rw [hgroup, readFlagGroup, ← hplace]
  dsimp only
  rw [if_neg (by simp [Cursor.atEnd])]
  change (readFlags ⟨({} : FlagSet).modes, [], none, false⟩ _ _ >>= _) = _
  rw [hread]
  rfl

/-- Flags in front of a pattern make it mean what it means in their modes. -/
theorem exprOf_withFlags {letters pattern : List Char} {set : FlagSet} {e e' : Expr}
    (hletters : FlagSet.addAll {} letters = .ok set) (hq : 'q' ∉ letters) (hne : letters ≠ [])
    (he : exprOf set.modes pattern = .ok e) (he' : exprOf {} (withFlags letters pattern) = .ok e') :
    e' = e := by
  obtain ⟨node, hnode, he⟩ := bind_ok he
  obtain ⟨node', hnode', he'⟩ := bind_ok he'
  obtain ⟨hread, -⟩ := readPattern_eq_ok.mp hnode
  obtain ⟨hread', -⟩ := readPattern_eq_ok.mp hnode'
  obtain ⟨size, hsize⟩ : ∃ size, (withFlags letters pattern).length = size + 1 := ⟨_, rfl⟩
  have hlength : size + 1 - (letters.length + 3) = pattern.length := by
    rw [← hsize]
    simp [withFlags]
    omega
  obtain ⟨flags, hpart⟩ :=
    @readPart_withFlags letters pattern set hletters hq hne (size + 1) (size + 1)
  rw [hlength] at hpart
  have hstart : InStep flags { modes := set.modes, row := ⟨pattern.length, []⟩ }
      ⟨set.modes, ⟨size + 1, [.flags flags]⟩, [], 0, []⟩ := .mk set.modes 0 [] (.row rfl)
  obtain ⟨after, hafter, hmeaning⟩ := hstart.readFrom _ hread
  have hstep : readFrom (size + 1) { modes := {}, row := ⟨size + 1, []⟩ }
      ⟨size + 1, withFlags letters pattern⟩ =
      (readPart { modes := {}, row := ⟨size + 1, []⟩ } ⟨size + 1, withFlags letters pattern⟩ '(' >>=
        fun result => readFrom size result.1 result.2) := readFrom_part rfl size
  have hfuel : readFrom size ⟨set.modes, ⟨size + 1, [.flags flags]⟩, [], 0, []⟩
      ⟨pattern.length, pattern⟩ =
      readFrom pattern.length ⟨set.modes, ⟨size + 1, [.flags flags]⟩, [], 0, []⟩
        ⟨pattern.length, pattern⟩ :=
    readFrom_fuel size (by change pattern.length ≤ size; omega) (Nat.le_refl _)
  rw [hsize, hstep, hpart] at hread'
  have hrest := hfuel.symm.trans hread'
  rw [hafter] at hrest
  obtain rfl := Except.ok.inj hrest
  rw [hmeaning, he] at he'
  exact (Except.ok.inj he').symm

end QueryFunctions.Pattern
