import QueryFunctions.Pattern.Compiled
import QueryFunctions.Proofs.Pattern.Route

/-! Where patterns match the empty text. The test for a place follows the pattern and agrees
with its routes, whatever else could match there and whichever branch goes first; the test
for a text asks it at every place, the end included. A pattern that is looked up never matches
the empty text, as each of the texts that it stands for is a character. -/

namespace QueryFunctions.Pattern

/-! ### One place -/

namespace Route

variable {r : Route} {i : Nat}

theorem copies_le (hr : ∀ {i j events}, r i j events → i ≤ j) :
    ∀ (n : Nat) {i j : Nat} {events : List GroupEvent}, r.copies n i j events → i ≤ j
  | 0, _, _, _, h => h.1.le
  | n + 1, _, _, _, ⟨_, _, _, h₁, h₂, _⟩ => (hr h₁).trans (copies_le hr n h₂)

/-- Copies of a route that stay at a place: none, or the route can stay there. -/
theorem copies_still (hr : ∀ {i j events}, r i j events → i ≤ j) (n : Nat) :
    (∃ events, r.copies n i i events) ↔ n = 0 ∨ ∃ events, r i i events := by
  constructor
  · rintro ⟨events, h⟩
    cases n with
    | zero => exact .inl rfl
    | succ n =>
      obtain ⟨j, first, second, h₁, h₂, -⟩ := h
      have hij := hr h₁
      have hji : j ≤ i := copies_le hr n h₂
      obtain rfl : i = j := by omega
      exact .inr ⟨first, h₁⟩
  · rintro (rfl | ⟨events, h⟩)
    · exact ⟨[], rfl, trivial, rfl⟩
    · induction n with
      | zero => exact ⟨[], rfl, trivial, rfl⟩
      | succ n ih =>
        obtain ⟨later, hlater⟩ := ih
        exact ⟨events ++ later, i, events, later, h, hlater, rfl⟩

end Route

variable {text : List Char} {i : Nat}

mutual

/-- The test for the empty text at a place tells whether the pattern has a route there. -/
theorem Expr.vanishes_iff : ∀ e : Expr,
    e.vanishes (before? text i) text[i]? = true ↔ e.EmptyAt text i
  | .empty => by simp [vanishes, EmptyAt, route, Route.stay]
  | .literal part => by
    simp only [vanishes, EmptyAt, route, Route.along, List.isEmpty_iff]
    constructor
    · rintro rfl
      exact ⟨[], List.nil_prefix, rfl, rfl⟩
    · rintro ⟨_, -, hlength, -⟩
      exact List.eq_nil_of_length_eq_zero (by omega)
  | .chars set => by simp [vanishes, EmptyAt, route, Route.step]
  | .look condition => by simp [vanishes, EmptyAt, route, Look.route, Route.stay]
  | .repeated min max greedy body => by
    have hcopies (n : Nat) := Route.copies_still (r := body.route text) (i := i) body.route_le n
    have hbody := Expr.vanishes_iff body
    simp only [vanishes, Bool.or_eq_true, decide_eq_true_eq, hbody, EmptyAt, route]
    constructor
    · intro h
      obtain ⟨events, hevents⟩ := (hcopies min).mpr h
      exact ⟨events, min, Nat.le_refl _, fun _ _ => Nat.le_max_left _ _, hevents⟩
    · rintro ⟨events, n, hmin, -, h⟩
      refine ((hcopies n).mp ⟨events, h⟩).imp_left fun hn => ?_
      omega
  | .group index name body => by
    have hbody := Expr.vanishes_iff body
    simp only [vanishes, hbody, EmptyAt, route, Route.grouped]
    exact ⟨fun ⟨inner, h⟩ => ⟨_, inner, h, rfl⟩, fun ⟨_, inner, h, _⟩ => ⟨inner, h⟩⟩
  | .row items => Expr.allVanish_iff items
  | .choice branches => Expr.anyVanishes_iff branches

theorem Expr.allVanish_iff : ∀ es : List Expr,
    Expr.allVanish (before? text i) text[i]? es = true ↔
      ∃ events, Expr.rowRoute text es i i events
  | [] => by simp [allVanish, rowRoute, Route.stay]
  | e :: es => by
    simp only [allVanish, Bool.and_eq_true, Expr.vanishes_iff e, Expr.allVanish_iff es, rowRoute]
    constructor
    · rintro ⟨⟨first, h₁⟩, second, h₂⟩
      exact ⟨_, i, first, second, h₁, h₂, rfl⟩
    · rintro ⟨_, j, first, second, h₁, h₂, -⟩
      have hij := e.route_le h₁
      have hji : j ≤ i := Expr.route_le (e := .row es) h₂
      obtain rfl : i = j := by omega
      exact ⟨⟨first, h₁⟩, second, h₂⟩

theorem Expr.anyVanishes_iff : ∀ es : List Expr,
    Expr.anyVanishes (before? text i) text[i]? es = true ↔
      ∃ events, Expr.choiceRoute text es i i events
  | [] => by simp [anyVanishes, choiceRoute]
  | e :: es => by
    simp only [anyVanishes, Bool.or_eq_true, Expr.vanishes_iff e, Expr.anyVanishes_iff es,
      choiceRoute, Route.either, EmptyAt, exists_or]

end

/-! ### Any place -/

theorem Expr.vanishesWithin_drop (e : Expr) (rest : List Char) :
    ∀ i, i + rest.length = text.length → text.drop i = rest →
      (e.vanishesWithin (before? text i) rest = true ↔
        ∃ k, i ≤ k ∧ k ≤ text.length ∧ e.EmptyAt text k) := by
  induction rest with
  | nil =>
    intro i hi _
    obtain rfl : i = text.length := by simpa using hi
    have hend : e.vanishes (before? text text.length) text[text.length]? = true ↔ _ :=
      e.vanishes_iff
    rw [List.getElem?_eq_none (Nat.le_refl _)] at hend
    rw [vanishesWithin, hend]
    constructor
    · exact fun h => ⟨_, Nat.le_refl _, Nat.le_refl _, h⟩
    · rintro ⟨k, hk, hk', h⟩
      rwa [show text.length = k by omega]
  | cons c cs ih =>
    intro i hi hrest
    have hlt : i < text.length := by simp at hi; omega
    rw [List.drop_eq_getElem_cons hlt, List.cons.injEq] at hrest
    obtain ⟨rfl, hcs⟩ := hrest
    have hbefore : before? text (i + 1) = some text[i] := List.getElem?_eq_getElem hlt
    have hhere : e.vanishes (before? text i) text[i]? = true ↔ _ := e.vanishes_iff
    rw [List.getElem?_eq_getElem hlt] at hhere
    have hlater := ih (i + 1) (by simp at hi; omega) hcs
    rw [hbefore] at hlater
    rw [vanishesWithin, Bool.or_eq_true, hhere, hlater]
    constructor
    · rintro (h | ⟨k, hk, hk', h⟩)
      · exact ⟨i, Nat.le_refl _, hlt.le, h⟩
      · exact ⟨k, by omega, hk', h⟩
    · rintro ⟨k, hk, hk', h⟩
      rcases hk.lt_or_eq with hk | rfl
      · exact .inr ⟨k, hk, hk', h⟩
      · exact .inl h

/-- The test for a text asks at every place of it, its end included. -/
theorem Expr.vanishesWithin_iff (e : Expr) (text : List Char) :
    e.vanishesWithin none text = true ↔ ∃ i, i ≤ text.length ∧ e.EmptyAt text i := by
  refine (e.vanishesWithin_drop text 0 (Nat.zero_add _) List.drop_zero).trans ?_
  simp

/-! ### Patterns that are looked up -/

namespace Openings

/-- The list of openings, if there is one, has one without bytes. -/
def Blank (os : Openings) : Prop := ∀ l, os = some l → ∃ o ∈ l, o.bytes = []

theorem mem_joinAlike {os : List Opening} {o : Opening} (h : o ∈ os) :
    ∃ o' ∈ Opening.joinAlike os, o'.bytes = o.bytes := by
  induction os with
  | nil => simp at h
  | cons p os ih =>
    unfold Opening.joinAlike at ih ⊢
    rw [List.foldr_cons]
    rcases List.mem_cons.mp h with rfl | h
    · split
      · split_ifs
        · exact ⟨_, List.mem_cons_self, rfl⟩
        · exact ⟨_, List.mem_cons_self, rfl⟩
      · exact ⟨_, List.mem_cons_self, rfl⟩
    · obtain ⟨o', ho', hbytes⟩ := ih h
      split
      next next later heq =>
        rw [heq] at ho'
        split_ifs with hp
        · rcases List.mem_cons.mp ho' with rfl | ho'
          · exact ⟨_, List.mem_cons_self, hp.trans hbytes⟩
          · exact ⟨o', List.mem_cons_of_mem _ ho', hbytes⟩
        · exact ⟨o', List.mem_cons_of_mem _ (heq ▸ ho'), hbytes⟩
      next heq => rw [heq] at ho'; simp at ho'

theorem blank_joinAlike {os : List Opening} (h : ∃ o ∈ os, o.bytes = []) :
    ∃ o ∈ Opening.joinAlike os, o.bytes = [] := by
  obtain ⟨o, ho, hbytes⟩ := h
  obtain ⟨o', ho', hbytes'⟩ := mem_joinAlike ho
  exact ⟨o', ho', hbytes'.trans hbytes⟩

theorem blank_map {os : List Opening} (f : Opening → Opening)
    (hf : ∀ o : Opening, o.bytes = [] → (f o).bytes = []) (h : ∃ o ∈ os, o.bytes = []) :
    ∃ o ∈ os.map f, o.bytes = [] := by
  obtain ⟨o, ho, hbytes⟩ := h
  exact ⟨f o, List.mem_map_of_mem ho, hf o hbytes⟩

theorem bytes_cut (size : Nat) (o : Opening) (h : o.bytes = []) : (o.cut size).bytes = [] := by
  unfold Opening.cut
  split_ifs
  · exact h
  · simp [h]

theorem Blank.unfinished {os : Openings} (h : os.Blank) : os.unfinished.Blank := by
  intro l hl
  obtain ⟨l', hl', rfl⟩ := Option.map_eq_some_iff.mp hl
  exact blank_map _ (fun _ ho => ho) (h l' hl')

theorem Blank.followedBy {first next : Openings} (h₁ : first.Blank) (h₂ : next.Blank) :
    (first.followedBy next).Blank := by
  intro l hl
  unfold Openings.followedBy at hl
  obtain ⟨os, hos, hl⟩ := Option.bind_eq_some_iff.mp hl
  obtain ⟨o, ho, hbytes⟩ := h₁ os hos
  split at hl
  next =>
    obtain rfl : os = l := Option.some.inj hl
    exact ⟨o, ho, hbytes⟩
  next =>
    split at hl
    next later hlater =>
      obtain rfl := Option.some.inj hl
      refine blank_map _ (bytes_cut openingBytes) (blank_joinAlike ?_)
      obtain ⟨o', ho', hbytes'⟩ := h₂ later (Option.filter_eq_some_iff.mp hlater).1
      by_cases hwhole : o.whole = true
      · refine ⟨⟨o.bytes ++ o'.bytes, o'.whole⟩, List.mem_flatMap.mpr ⟨o, ho, ?_⟩, by simp [*]⟩
        rw [Opening.extend, if_pos hwhole]
        exact List.mem_map_of_mem ho'
      · refine ⟨o, List.mem_flatMap.mpr ⟨o, ho, ?_⟩, hbytes⟩
        rw [Opening.extend, if_neg hwhole]
        exact List.mem_singleton_self o
    next =>
      have hany : os.any (·.bytes.isEmpty) = true :=
        List.any_eq_true.mpr ⟨o, ho, by simp [hbytes]⟩
      rw [if_pos hany] at hl
      simp at hl

theorem Blank.orBranch {first second : Openings}
    (h : first.Blank ∨ second.Blank) : (first.orBranch second).Blank := by
  intro l hl
  unfold Openings.orBranch at hl
  obtain ⟨os, hos, hl⟩ := Option.bind_eq_some_iff.mp hl
  obtain ⟨os', hos', hl⟩ := Option.bind_eq_some_iff.mp hl
  have happend (f : List Opening → List Opening)
      (hf : ∀ l, (∃ o ∈ l, o.bytes = []) → ∃ o ∈ f l, o.bytes = []) :
      ∃ o ∈ f os ++ f os', o.bytes = [] := by
    rcases h with h | h
    · obtain ⟨o, ho, hbytes⟩ := hf os (h os hos)
      exact ⟨o, List.mem_append_left _ ho, hbytes⟩
    · obtain ⟨o, ho, hbytes⟩ := hf os' (h os' hos')
      exact ⟨o, List.mem_append_right _ ho, hbytes⟩
  by_cases hfew : os.length + os'.length ≤ openingLimit
  · rw [if_pos hfew] at hl
    obtain rfl := Option.some.inj hl
    exact blank_joinAlike (happend id fun _ h => h)
  · rw [if_neg hfew] at hl
    obtain rfl := Option.some.inj (Option.ite_none_right_eq_some.mp hl).2
    refine blank_joinAlike (happend (fun l => Opening.joinAlike (l.map (·.cut crowdedBytes))) ?_)
    exact fun l hl => blank_joinAlike (blank_map _ (bytes_cut crowdedBytes) hl)

theorem Blank.blank : Openings.blank.Blank := by
  intro l hl
  obtain rfl := Option.some.inj hl
  exact ⟨Opening.blank, List.mem_singleton_self _, rfl⟩

theorem Blank.times {one : Openings} {min : Nat} (h : min = 0 ∨ one.Blank) (max : Option Nat)
    (greedy : Bool) : (one.times min max greedy).Blank := by
  unfold Openings.times
  by_cases hmin : min = 0
  · rw [if_pos hmin]
    cases greedy with
    | true => exact .orBranch (.inr .blank)
    | false => exact .orBranch (.inl .blank)
  · rw [if_neg hmin]
    have hone := h.resolve_left hmin
    have hfold (n : Nat) (os : Openings) (hos : os.Blank) :
        ((List.replicate n one).foldl Openings.followedBy os).Blank := by
      induction n generalizing os with
      | zero => exact hos
      | succ n ih => exact ih _ (hos.followedBy hone)
    have hcopies := hfold (Min.min min spreadLimit) _ .blank
    split
    · exact hcopies
    · exact hcopies.unfinished

end Openings

mutual

/-- What matches the empty text somewhere has an opening without bytes. -/
theorem Expr.openings_blank {before after : Option Char} : ∀ e : Expr,
    e.vanishes before after = true → e.openings.Blank
  | .empty, _ => Openings.Blank.blank
  | .literal part, h => by
    intro l hl
    obtain rfl := Option.some.inj hl
    obtain rfl := List.isEmpty_iff.mp h
    exact ⟨_, List.mem_singleton_self _, rfl⟩
  | .chars _, h => by simp [vanishes] at h
  | .look _, _ => Openings.Blank.blank
  | .repeated min max greedy body, h => by
    simp only [vanishes, Bool.or_eq_true, decide_eq_true_eq] at h
    exact .times (h.imp_right (Expr.openings_blank body)) max greedy
  | .group _ _ body, h => Expr.openings_blank body h
  | .row items, h => Expr.openingsOfRow_blank items h .blank
  | .choice branches, h => Expr.openingsOfChoice_blank branches (.inr h)

theorem Expr.openingsOfRow_blank {before after : Option Char} : ∀ es : List Expr,
    Expr.allVanish before after es = true → ∀ {os : Openings}, os.Blank →
      (Expr.openingsOfRow os es).Blank
  | [], _, _, hos => hos
  | e :: es, h, _, hos => by
    simp only [allVanish, Bool.and_eq_true] at h
    exact Expr.openingsOfRow_blank es h.2 (hos.followedBy (Expr.openings_blank e h.1))

theorem Expr.openingsOfChoice_blank {before after : Option Char} : ∀ (es : List Expr)
    {os : Openings}, os.Blank ∨ Expr.anyVanishes before after es = true →
      (Expr.openingsOfChoice os es).Blank
  | [], _, h => h.elim id (by simp [anyVanishes])
  | e :: es, os, h => by
    simp only [anyVanishes, Bool.or_eq_true] at h
    have hnext : (os.orBranch e.openings).Blank ∨ Expr.anyVanishes before after es = true := by
      rcases h with h | h | h
      · exact .inl (.orBranch (.inl h))
      · exact .inl (.orBranch (.inr (Expr.openings_blank e h)))
      · exact .inr h
    exact Expr.openingsOfChoice_blank es hnext

end

theorem Expr.not_emptyAt_of_lookup {e : Expr} {characters : List Char}
    (h : e.lookup? = some characters) (i : Nat) : ¬ e.EmptyAt text i := by
  rw [← Expr.vanishes_iff]
  intro hvanishes
  unfold Expr.lookup? Expr.listing? at h
  split_ifs at h with hmin hplain
  · obtain ⟨texts, htexts, -⟩ := Option.bind_eq_some_iff.mp h
    obtain ⟨os, hos, htexts⟩ := Option.bind_eq_some_iff.mp htexts
    obtain ⟨o, ho, hbytes⟩ := Expr.openings_blank e hvanishes os hos
    split_ifs at htexts with hlisting
    simp only [Bool.and_eq_true, List.all_eq_true, Bool.not_eq_true', List.isEmpty_eq_false_iff]
      at hlisting
    exact hlisting.1.2 o ho hbytes
  · simp at h

/-! ### The guard -/

/-- Whether the search at a place of a text, confined to the empty text there, finds the
pattern. The search for a pattern that is looked up tells by the next character. -/
def Compiled.foundAt (compiled : Compiled) (text : List Char) (i : Nat) : Bool :=
  match compiled.expr.lookup? with
  | some characters => text[i]?.any characters.contains
  | none => compiled.expr.vanishes (before? text i) text[i]?

/-- The search misses no place where the pattern matches the empty text. -/
theorem Compiled.foundAt_of_emptyAt {compiled : Compiled} {text : List Char} {i : Nat}
    (h : compiled.expr.EmptyAt text i) : compiled.foundAt text i = true := by
  unfold foundAt
  cases hlookup : compiled.expr.lookup? with
  | none => exact compiled.expr.vanishes_iff.mpr h
  | some characters => exact absurd h (Expr.not_emptyAt_of_lookup hlookup i)

/-- The searches at the places of a text find a pattern exactly where it matches the empty
text. -/
def Compiled.SearchExact (compiled : Compiled) (text : List Char) : Prop :=
  ∀ i, i ≤ text.length → (compiled.foundAt text i = true ↔ compiled.expr.EmptyAt text i)

/-- The search is exact for every pattern that is not looked up. -/
theorem Compiled.searchExact {compiled : Compiled} (hlookup : compiled.expr.lookup? = none)
    (text : List Char) : compiled.SearchExact text := by
  intro i _
  unfold foundAt
  rw [hlookup]
  exact compiled.expr.vanishes_iff

/-- For a pattern that is looked up the search is exact in those texts only that hold none of
its characters. -/
theorem Compiled.searchExact_iff {compiled : Compiled} {text : List Char} :
    compiled.SearchExact text ↔
      ∀ characters, compiled.expr.lookup? = some characters → ∀ c ∈ text, c ∉ characters := by
  cases hlookup : compiled.expr.lookup? with
  | none => exact iff_of_true (searchExact hlookup text) (by simp)
  | some characters =>
    have hempty (i : Nat) : ¬ compiled.expr.EmptyAt text i :=
      Expr.not_emptyAt_of_lookup hlookup i
    constructor
    · rintro hexact _ ⟨⟩ c hc hmem
      obtain ⟨i, hi, rfl⟩ := List.mem_iff_getElem.mp hc
      refine hempty i ((hexact i hi.le).mp ?_)
      unfold foundAt
      rw [hlookup, List.getElem?_eq_getElem hi]
      exact List.contains_iff_mem.mpr hmem
    · intro habsent i _
      refine iff_of_false (fun hfound => ?_) (hempty i)
      unfold foundAt at hfound
      rw [hlookup] at hfound
      obtain ⟨c, hc, hmem⟩ := Option.any_eq_true _ _ |>.mp hfound
      exact habsent characters rfl c (List.mem_of_getElem? hc) (List.contains_iff_mem.mp hmem)

/-- The guard searches at every place of the text, its end included. -/
theorem Compiled.matchesEmptyTextIn_iff (compiled : Compiled) (text : String) :
    compiled.matchesEmptyTextIn text = true ↔
      ∃ i, i ≤ text.toList.length ∧ compiled.foundAt text.toList i = true := by
  cases hlookup : compiled.expr.lookup? with
  | none =>
    unfold matchesEmptyTextIn
    simp only [hlookup, Expr.vanishesWithin_iff]
    exact exists_congr fun i =>
      and_congr_right fun hi => (searchExact hlookup text.toList i hi).symm
  | some characters =>
    unfold matchesEmptyTextIn foundAt
    simp only [hlookup, List.any_eq_true]
    constructor
    · rintro ⟨c, hc, hmem⟩
      obtain ⟨i, hi, rfl⟩ := List.mem_iff_getElem.mp hc
      exact ⟨i, hi.le, by rw [List.getElem?_eq_getElem hi]; exact hmem⟩
    · rintro ⟨i, -, hi⟩
      obtain ⟨c, hc, hmem⟩ := Option.any_eq_true _ _ |>.mp hi
      exact ⟨c, List.mem_of_getElem? hc, hmem⟩

end QueryFunctions.Pattern
