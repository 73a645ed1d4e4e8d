import QueryFunctions.Pattern.Segmentation
import QueryFunctions.Proofs.Pattern.Reading

/-! Matches by their places. Cutting a text takes the leftmost matches, each from the end of
the one before; an occurrence is such a match with the places of its ends and of its groups.
The main statement is that the cut text is the list of its gaps and occurrences: the places
determine the gaps, the texts of the matches and the texts of their groups. -/

namespace QueryFunctions.Pattern

/-! ### Groups on a route -/

/-- Every opening of a group is followed by a closing of it. -/
def Closed : List GroupEvent → Prop
  | [] => True
  | e :: es => (e.opens = true → ∃ c ∈ es, c.group = e.group ∧ c.opens = false) ∧ Closed es

theorem closed_append {first second : List GroupEvent} (h₁ : Closed first) (h₂ : Closed second) :
    Closed (first ++ second) := by
  induction first with
  | nil => exact h₂
  | cons e es ih =>
    refine ⟨fun he => ?_, ih h₁.2⟩
    obtain ⟨c, hc, h⟩ := h₁.1 he
    exact ⟨c, List.mem_append_left _ hc, h⟩

/-- Events lie between two places, in the order in which a text is gone over. -/
structure Between (size i j : Nat) (events : List GroupEvent) : Prop where
  le : i ≤ j
  sorted : events.Pairwise fun a b => b.left ≤ a.left
  within : ∀ e ∈ events, size - j ≤ e.left ∧ e.left ≤ size - i

namespace Between

variable {size i j k : Nat} {first second : List GroupEvent}

theorem nil (h : i ≤ j) : Between size i j [] := ⟨h, .nil, by simp⟩

theorem append (h₁ : Between size i k first) (h₂ : Between size k j second) :
    Between size i j (first ++ second) where
  le := h₁.le.trans h₂.le
  sorted := by
    rw [List.pairwise_append]
    refine ⟨h₁.sorted, h₂.sorted, fun a ha b hb => ?_⟩
    exact (h₂.within b hb).2.trans (h₁.within a ha).1
  within := by
    intro e he
    have hik := h₁.le
    have hkj := h₂.le
    rcases List.mem_append.mp he with he | he
    · have := h₁.within e he
      omega
    · have := h₂.within e he
      omega

theorem single (index : Nat) (opens : Bool) :
    Between size i i [⟨index, opens, size - i⟩] where
  le := Nat.le_refl i
  sorted := List.pairwise_singleton _ _
  within := by
    intro e he
    obtain rfl := List.mem_singleton.mp he
    exact ⟨Nat.le_refl _, Nat.le_refl _⟩

end Between

/-- On a route of a pattern the events lie in order between its ends, and what opens is
closed. -/
theorem Expr.route_events {e : Expr} {text : List Char} {i j : Nat} {events : List GroupEvent}
    (h : e.route text i j events) : Between text.length i j events ∧ Closed events := by
  refine Expr.route_rec (P := fun i j events => Between text.length i j events ∧ Closed events)
    ?_ ?_ ?_ ?_ h
  · exact fun i => ⟨.nil (Nat.le_refl _), trivial⟩
  · exact fun i _ => ⟨.nil (Nat.le_succ _), trivial⟩
  · exact fun i k j first second h₁ h₂ => ⟨h₁.1.append h₂.1, closed_append h₁.2 h₂.2⟩
  · rintro index i j inner ⟨hb, hc⟩
    refine ⟨(Between.single index true).append (hb.append (Between.single index false)), ?_, ?_⟩
    · exact fun _ => ⟨⟨index, false, text.length - j⟩, by simp, rfl, rfl⟩
    · exact closed_append hc ⟨by simp, trivial⟩

namespace Trail

theorem last?_cons (e : GroupEvent) (es : List GroupEvent) (stop g : Nat) (opens : Bool) :
    (⟨e :: es, stop⟩ : Trail).last? g opens =
      ((⟨es, stop⟩ : Trail).last? g opens).or
        (if e.group = g ∧ e.opens = opens then some e.left else none) := by
  unfold last?
  by_cases he : e.group = g ∧ e.opens = opens
  · rw [if_pos he, List.filter_cons_of_pos (by simpa using he), List.getLast?_cons]
    cases (es.filter fun e => e.group = g && e.opens = opens).getLast? <;> simp
  · rw [if_neg he, List.filter_cons_of_neg (by simpa using he), Option.or_none]

theorem last?_mem {es : List GroupEvent} {stop g left : Nat} {opens : Bool}
    (h : (⟨es, stop⟩ : Trail).last? g opens = some left) :
    ∃ e ∈ es, e.left = left ∧ e.group = g ∧ e.opens = opens := by
  unfold last? at h
  obtain ⟨e, he, rfl⟩ := Option.map_eq_some_iff.mp h
  have := List.mem_of_getLast? he
  rw [List.mem_filter] at this
  exact ⟨e, this.1, rfl, by simpa using this.2⟩

theorem last?_isSome {es : List GroupEvent} {stop g : Nat} {opens : Bool} :
    ((⟨es, stop⟩ : Trail).last? g opens).isSome = true ↔
      ∃ e ∈ es, e.group = g ∧ e.opens = opens := by
  constructor
  · intro h
    obtain ⟨left, h⟩ := Option.isSome_iff_exists.mp h
    obtain ⟨e, he, -, heg⟩ := last?_mem h
    exact ⟨e, he, heg⟩
  · rintro ⟨e, he, heg⟩
    unfold last?
    rw [Option.isSome_map, List.getLast?_isSome]
    exact List.ne_nil_of_mem (List.mem_filter.mpr ⟨he, by simpa using heg⟩)

theorem closes_of_opens {es : List GroupEvent} {stop g : Nat} (hc : Closed es)
    (h : ((⟨es, stop⟩ : Trail).last? g true).isSome = true) :
    ((⟨es, stop⟩ : Trail).last? g false).isSome = true := by
  rw [last?_isSome] at h ⊢
  induction es with
  | nil => simp at h
  | cons e es ih =>
    obtain ⟨d, hd, hg, ho⟩ := h
    rcases List.mem_cons.mp hd with rfl | hd
    · obtain ⟨c, hc', h⟩ := hc.1 ho
      exact ⟨c, List.mem_cons_of_mem _ hc', h.1.trans hg, h.2⟩
    · obtain ⟨c, hc', h⟩ := ih hc.2 ⟨d, hd, hg, ho⟩
      exact ⟨c, List.mem_cons_of_mem _ hc', h⟩

/-- The last closing of a group does not come before its last opening. -/
theorem last?_le {es : List GroupEvent} {stop g opened closed : Nat} (hc : Closed es)
    (hs : es.Pairwise fun a b => b.left ≤ a.left)
    (ho : (⟨es, stop⟩ : Trail).last? g true = some opened)
    (hl : (⟨es, stop⟩ : Trail).last? g false = some closed) : closed ≤ opened := by
  induction es with
  | nil => simp [last?] at ho
  | cons e es ih =>
    rw [List.pairwise_cons] at hs
    rw [last?_cons] at ho hl
    cases hopen : (⟨es, stop⟩ : Trail).last? g true with
    | some s =>
      have hsome := @closes_of_opens es stop g hc.2 (by rw [hopen]; rfl)
      obtain ⟨t, ht⟩ := Option.isSome_iff_exists.mp hsome
      rw [hopen] at ho
      rw [ht] at hl
      obtain rfl : s = opened := by simpa using ho
      obtain rfl : t = closed := by simpa using hl
      exact ih hc.2 hs.2 hopen ht
    | none =>
      rw [hopen, Option.none_or] at ho
      split_ifs at ho with he
      obtain rfl : e.left = opened := by simpa using ho
      rw [if_neg (by simp [he.2]), Option.or_none] at hl
      obtain ⟨d, hd, rfl, -⟩ := last?_mem hl
      exact hs.1 d hd

end Trail

/-! ### Occurrences -/

/-- Where a group lies on a route, by its last opening and its last closing. -/
def captureOf (size : Nat) (events : List GroupEvent) (group : Nat) : Option (Nat × Nat) := do
  let opened ← (⟨events, 0⟩ : Trail).last? group true
  let closed ← (⟨events, 0⟩ : Trail).last? group false
  some (size - opened, size - closed)

/-- A match by its places: where it starts and stops, and where each of its groups does, if
the group took part in it. -/
structure Occurrence where
  start : Nat
  stop : Nat
  captures : List (Option (Nat × Nat))

namespace Occurrence

def ofRoute (groups size i j : Nat) (events : List GroupEvent) : Occurrence :=
  ⟨i, j, (List.range groups).map fun n => captureOf size events (n + 1)⟩

def text (text : List Char) (o : Occurrence) : List Char := text.extract o.start o.stop

/-- The text of a group of a match; group 0 is the whole match, and a group that took no part
has none. -/
def groupText (text : List Char) (o : Occurrence) : Nat → List Char
  | 0 => o.text text
  | n + 1 =>
    match o.captures[n]? with
    | some (some (i, j)) => text.extract i j
    | _ => []

/-- The match as it is kept in a segmentation. -/
def toMatch (text : List Char) (o : Occurrence) : Match :=
  ⟨o.text text, o.captures.map fun c => c.map fun ends => text.extract ends.1 ends.2⟩

theorem group_toMatch (text : List Char) (o : Occurrence) (n : Nat) :
    (o.toMatch text).group n = o.groupText text n := by
  cases n with
  | zero => rfl
  | succ n =>
    simp only [Match.group, toMatch, groupText, List.getElem?_map]
    rcases o.captures[n]? with _ | _ | _ <;> rfl

end Occurrence

theorem captureOf_within {size i j group a b : Nat} {events : List GroupEvent}
    (hb : Between size i j events) (hc : Closed events) (hj : j ≤ size)
    (h : captureOf size events group = some (a, b)) : i ≤ a ∧ a ≤ b ∧ b ≤ j := by
  unfold captureOf at h
  obtain ⟨opened, hopened, h⟩ := Option.bind_eq_some_iff.mp h
  obtain ⟨closed, hclosed, h⟩ := Option.bind_eq_some_iff.mp h
  obtain ⟨rfl, rfl⟩ : size - opened = a ∧ size - closed = b := by simpa using h
  have hle := Trail.last?_le hc hb.sorted hopened hclosed
  obtain ⟨e, he, rfl, -⟩ := Trail.last?_mem hopened
  obtain ⟨d, hd, rfl, -⟩ := Trail.last?_mem hclosed
  have h₁ := hb.within e he
  have h₂ := hb.within d hd
  have := hb.le
  omega

/-- The match that a search describes is the one of the route that it found. -/
theorem toMatch_ofRoute {size i j groups : Nat} {events : List GroupEvent} {text : List Char}
    (hsize : text.length = size) (hb : Between size i j events) (hc : Closed events)
    (hj : j ≤ size) :
    (⟨events, size - j⟩ : Trail).toMatch groups (size - i) (text.drop i) =
      (Occurrence.ofRoute groups size i j events).toMatch text := by
  have hij := hb.le
  unfold Trail.toMatch Occurrence.toMatch Occurrence.ofRoute Occurrence.text
  rw [Match.mk.injEq]
  constructor
  · rw [List.extract_eq_take_drop, show size - i - (size - j) = j - i by omega]
  · rw [List.map_map]
    refine List.map_congr_left fun n _ => ?_
    simp only [Function.comp, captureOf]
    change (((⟨events, 0⟩ : Trail).last? (n + 1) true).bind fun start =>
      ((⟨events, 0⟩ : Trail).last? (n + 1) false).bind fun stop => _) = _
    cases hopened : (⟨events, 0⟩ : Trail).last? (n + 1) true with
    | none => rfl
    | some opened =>
      cases hclosed : (⟨events, 0⟩ : Trail).last? (n + 1) false with
      | none => rfl
      | some closed =>
        have hle := Trail.last?_le hc hb.sorted hopened hclosed
        obtain ⟨e, he, rfl, -⟩ := Trail.last?_mem hopened
        obtain ⟨d, hd, rfl, -⟩ := Trail.last?_mem hclosed
        have h₁ := hb.within e he
        have h₂ := hb.within d hd
        simp only [Option.bind_some, List.extract_eq_take_drop, List.drop_drop]
        congr 2
        · omega
        · congr 1; omega

end QueryFunctions.Pattern
