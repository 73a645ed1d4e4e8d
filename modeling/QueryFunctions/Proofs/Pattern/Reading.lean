import QueryFunctions.Proofs.Pattern.Route

/-! Reading a text back to its start finds a match at a place exactly where the pattern has a
route from it, and what it finds is a route. A mark is right at a place if it tells how a
match goes on over the character there. The invariant is that all marks are right at the place
before the one that has been read; entering the pattern uses marks that are right, and
retreating makes them right one place further to the left. -/

namespace QueryFunctions.Pattern

def Trail.prepend (events : List GroupEvent) (trail : Trail) : Trail :=
  { trail with events := events ++ trail.events }

namespace Trail

@[simp] theorem prepend_nil (t : Trail) : t.prepend [] = t := rfl

@[simp] theorem prepend_append (first second : List GroupEvent) (t : Trail) :
    t.prepend (first ++ second) = (t.prepend second).prepend first := by
  simp [prepend]

@[simp] theorem prepend_cons (e : GroupEvent) (events : List GroupEvent) (t : Trail) :
    t.prepend (e :: events) = (t.prepend events).record e := rfl

end Trail

/-- The trails that may follow at a place. -/
abbrev Onward := Nat → Trail → Prop

namespace Onward

/-- First a route, then onward. -/
def via (r : Route) (K : Onward) : Onward := fun i t =>
  ∃ j events rest, r i j events ∧ K j rest ∧ t = rest.prepend events

/-- First a route over at least one character, then onward. -/
def across (r : Route) (K : Onward) (i : Nat) (t : Trail) : Prop :=
  ∃ j events rest, i < j ∧ r i j events ∧ K j rest ∧ t = rest.prepend events

/-- First a route over no character, then a trail of the given ones. -/
def still (r : Route) (E : Trail → Prop) (i : Nat) (t : Trail) : Prop :=
  ∃ events rest, r i i events ∧ E rest ∧ t = rest.prepend events

/-- The close of a group, then onward. -/
def closing (size index : Nat) (K : Onward) : Onward := fun j t =>
  ∃ rest, K j rest ∧ t = rest.record ⟨index, false, size - j⟩

end Onward

/-- A search comes back with one of the given trails, if there is one. -/
structure Answers (found : Option Trail) (E : Trail → Prop) : Prop where
  sound : ∀ t, found = some t → E t
  complete : (∃ t, E t) → found.isSome = true

namespace Answers

variable {a b : Option Trail} {E F : Trail → Prop}

theorem none_empty : Answers none fun _ => False := ⟨by simp, by simp⟩

/-- Whatever a search comes back with, it answers for that. -/
theorem self (found : Option Trail) : Answers found fun t => found = some t :=
  ⟨fun _ ht => ht, fun ⟨_, ht⟩ => by simp [ht]⟩

theorem congr (h : Answers a E) (hEF : ∀ t, E t ↔ F t) : Answers a F :=
  ⟨fun t ht => (hEF t).mp (h.sound t ht), fun ⟨t, ht⟩ => h.complete ⟨t, (hEF t).mpr ht⟩⟩

/-- The trails may be exchanged for others if there are some exactly where there were. -/
theorem mono (h : Answers a E) (hEF : ∀ t, E t → F t) (hFE : (∃ t, F t) → ∃ t, E t) :
    Answers a F :=
  ⟨fun t ht => hEF t (h.sound t ht), fun ht => h.complete (hFE ht)⟩

theorem orElse (ha : Answers a E) (hb : Answers b F) :
    Answers (a.orElse fun _ => b) fun t => E t ∨ F t := by
  constructor
  · intro t ht
    cases a with
    | none => exact .inr (hb.sound t ht)
    | some t' => exact .inl (ha.sound t ht)
  · rintro ⟨t, ht | ht⟩
    · have := ha.complete ⟨t, ht⟩
      cases a <;> simp_all
    · have := hb.complete ⟨t, ht⟩
      cases a <;> simp_all

theorem prefer (greedy : Bool) (more fewer : Thunk (Option Trail)) (ha : Answers more.get E)
    (hb : Answers fewer.get F) :
    Answers (Marked.prefer greedy more fewer) fun t => E t ∨ F t := by
  cases greedy with
  | true => exact ha.orElse hb
  | false => exact (hb.orElse ha).congr fun t => Or.comm

theorem map_record (h : Answers a E) (event : GroupEvent) :
    Answers (a.map (Trail.record event)) fun t => ∃ rest, E rest ∧ t = rest.record event := by
  constructor
  · intro t ht
    obtain ⟨rest, hrest, rfl⟩ := Option.map_eq_some_iff.mp ht
    exact ⟨rest, h.sound rest hrest, rfl⟩
  · rintro ⟨t, rest, hrest, -⟩
    simpa using h.complete ⟨rest, hrest⟩

end Answers

namespace Marked

variable {text : List Char} {i : Nat} {K : Onward} {E : Trail → Prop}

/-- What comes after each part of a pattern, given what comes after the whole, and the marks
that are right before the character at a place. -/
def RightAt (text : List Char) (i : Nat) : Marked → Onward → Prop
  | .empty, _ => True
  | .char test mark, K =>
    Answers mark fun t => (∃ c, text[i]? = some c ∧ test c = true) ∧ K (i + 1) t
  | .look _, _ => True
  | .seq first second, K =>
    first.RightAt text i (.via (second.route text) K) ∧ second.RightAt text i K
  | .alt first second, K => first.RightAt text i K ∧ second.RightAt text i K
  | .opt _ body, K => body.RightAt text i K
  | .star _ body, K => body.RightAt text i (.via (body.route text).loop K)
  | .plus _ body, K => body.RightAt text i (.via (body.route text).loop K)
  | .group index body, K => body.RightAt text i (.closing text.length index K)

/-! ### Loops -/

theorem loop_le (m : Marked) {j : Nat} {events : List GroupEvent}
    (h : (m.route text).loop i j events) : i ≤ j :=
  route_le (.star true m) h

/-- Idle rounds can be left out: a loop that gets on has a first round that does. -/
theorem across_loop_of_copies (body : Marked) (n : Nat) :
    ∀ {i j events t}, i < j → (body.route text).copies n i j events → K j t →
      ∃ u, Onward.across (body.route text) (.via (body.route text).loop K) i u := by
  induction n with
  | zero =>
    rintro i j events t hij ⟨rfl, -, -⟩
    omega
  | succ n ih =>
    rintro i j events t hij ⟨k, first, second, h₁, h₂, -⟩ hK
    rcases (body.route_le h₁).lt_or_eq with hik | rfl
    · exact ⟨_, k, first, _, hik, h₁, ⟨j, second, t, ⟨n, h₂⟩, hK, rfl⟩, rfl⟩
    · exact ih hij h₂ hK

/-- A first round over a character followed by a loop is a loop. -/
theorem across_loop_of_across (body : Marked) {t : Trail}
    (h : Onward.across (body.route text) (.via (body.route text).loop K) i t) :
    Onward.across (body.route text).loop K i t := by
  obtain ⟨j, first, _, hij, h₁, ⟨k, second, rest, ⟨n, h₂⟩, hK, rfl⟩, rfl⟩ := h
  have := body.loop_le ⟨n, h₂⟩
  exact ⟨k, first ++ second, rest, by omega, ⟨n + 1, j, first, second, h₁, h₂, rfl⟩, hK,
    by simp⟩

/-- Onward by a loop: a first round over a character, or no round that gets on. -/
theorem loop_covered (body : Marked) (h : ∃ t, Onward.via (body.route text).loop K i t) :
    (∃ t, Onward.across (body.route text) (.via (body.route text).loop K) i t) ∨
      ∃ t, K i t := by
  obtain ⟨_, j, events, rest, ⟨n, h⟩, hK, -⟩ := h
  rcases (body.loop_le ⟨n, h⟩).lt_or_eq with hij | rfl
  · exact .inl (body.across_loop_of_copies n hij h hK)
  · exact .inr ⟨rest, hK⟩

/-- A first round over a character followed by a loop is one round or more. -/
theorem across_plus_of_across (greedy : Bool) (body : Marked) {t : Trail}
    (h : Onward.across (body.route text) (.via (body.route text).loop K) i t) :
    Onward.across ((plus greedy body).route text) K i t := by
  obtain ⟨j, first, _, hij, h₁, ⟨k, second, rest, h₂, hK, rfl⟩, rfl⟩ := h
  have := body.loop_le h₂
  exact ⟨k, first ++ second, rest, by omega, ⟨j, first, second, h₁, h₂, rfl⟩, hK, by simp⟩

/-- One round or more that get on have a first round that does. -/
theorem across_of_across_plus (greedy : Bool) (body : Marked)
    (h : ∃ t, Onward.across ((plus greedy body).route text) K i t) :
    ∃ t, Onward.across (body.route text) (.via (body.route text).loop K) i t := by
  obtain ⟨_, k, _, rest, hik, ⟨j, first, second, h₁, ⟨n, h₂⟩, -⟩, hK, -⟩ := h
  rcases (body.route_le h₁).lt_or_eq with hij | rfl
  · exact ⟨_, j, first, _, hij, h₁, ⟨k, second, rest, ⟨n, h₂⟩, hK, rfl⟩, rfl⟩
  · exact body.across_loop_of_copies n hik h₂ hK

/-! ### Ways through the parts

How a way over a character, or over none, goes through a pattern is said by its parts. -/

theorem across_stay_iff {holds : Nat → Prop} {t : Trail} :
    Onward.across (.stay holds) K i t ↔ False := by
  refine iff_false_intro ?_
  rintro ⟨j, _, _, hij, ⟨rfl, -, -⟩, -, -⟩
  exact hij.false

theorem still_stay_iff {holds : Nat → Prop} {t : Trail} :
    Onward.still (.stay holds) E i t ↔ holds i ∧ E t := by
  constructor
  · rintro ⟨_, rest, ⟨-, hi, rfl⟩, ht, rfl⟩
    exact ⟨hi, ht⟩
  · rintro ⟨hi, ht⟩
    exact ⟨[], t, ⟨rfl, hi, rfl⟩, ht, rfl⟩

theorem across_step_iff {test : Char → Bool} {t : Trail} :
    Onward.across (.step text test) K i t ↔
      (∃ c, text[i]? = some c ∧ test c = true) ∧ K (i + 1) t := by
  constructor
  · rintro ⟨_, _, rest, -, ⟨hc, rfl, rfl⟩, ht, rfl⟩
    exact ⟨hc, ht⟩
  · rintro ⟨hc, ht⟩
    exact ⟨i + 1, [], t, Nat.lt_succ_self i, ⟨hc, rfl, rfl⟩, ht, rfl⟩

theorem still_step_iff {test : Char → Bool} {t : Trail} :
    Onward.still (.step text test) E i t ↔ False := by
  refine iff_false_intro ?_
  rintro ⟨_, _, ⟨-, hi, -⟩, -, -⟩
  omega

theorem still_or_iff {r : Route} {F : Trail → Prop} {t : Trail} :
    Onward.still r (fun u => E u ∨ F u) i t ↔ Onward.still r E i t ∨ Onward.still r F i t := by
  constructor
  · rintro ⟨events, rest, h, ht | ht, rfl⟩
    · exact .inl ⟨events, rest, h, ht, rfl⟩
    · exact .inr ⟨events, rest, h, ht, rfl⟩
  · rintro (⟨events, rest, h, ht, rfl⟩ | ⟨events, rest, h, ht, rfl⟩)
    · exact ⟨events, rest, h, .inl ht, rfl⟩
    · exact ⟨events, rest, h, .inr ht, rfl⟩

/-- Onward by a route: over a character or over none. -/
theorem via_iff (m : Marked) {t : Trail} :
    Onward.via (m.route text) K i t ↔
      Onward.across (m.route text) K i t ∨ Onward.still (m.route text) (K i) i t := by
  constructor
  · rintro ⟨j, events, rest, h, hK, rfl⟩
    rcases (m.route_le h).lt_or_eq with hij | rfl
    · exact .inl ⟨j, events, rest, hij, h, hK, rfl⟩
    · exact .inr ⟨events, rest, h, hK, rfl⟩
  · rintro (⟨j, events, rest, -, h, hK, rfl⟩ | ⟨events, rest, h, hK, rfl⟩)
    · exact ⟨j, events, rest, h, hK, rfl⟩
    · exact ⟨i, events, rest, h, hK, rfl⟩

/-- A way over a character of a row goes over one of its first part, or over none of it and
then over one of the second. -/
theorem across_seq_iff (first second : Marked) {t : Trail} :
    Onward.across ((seq first second).route text) K i t ↔
      Onward.across (first.route text) (.via (second.route text) K) i t ∨
        Onward.still (first.route text) (Onward.across (second.route text) K i) i t := by
  constructor
  · rintro ⟨k, _, rest, hik, ⟨j, events, events', h₁, h₂, rfl⟩, hK, rfl⟩
    rcases (first.route_le h₁).lt_or_eq with hij | rfl
    · exact .inl ⟨j, events, _, hij, h₁, ⟨k, events', rest, h₂, hK, rfl⟩, by simp⟩
    · exact .inr ⟨events, _, h₁, ⟨k, events', rest, hik, h₂, hK, rfl⟩, by simp⟩
  · rintro (⟨j, events, _, hij, h₁, ⟨k, events', rest, h₂, hK, rfl⟩, rfl⟩ |
      ⟨events, _, h₁, ⟨k, events', rest, hik, h₂, hK, rfl⟩, rfl⟩)
    · have := second.route_le h₂
      exact ⟨k, events ++ events', rest, by omega, ⟨j, events, events', h₁, h₂, rfl⟩, hK,
        by simp⟩
    · exact ⟨k, events ++ events', rest, hik, ⟨i, events, events', h₁, h₂, rfl⟩, hK, by simp⟩

theorem still_seq_iff (first second : Marked) {t : Trail} :
    Onward.still ((seq first second).route text) E i t ↔
      Onward.still (first.route text) (Onward.still (second.route text) E i) i t := by
  constructor
  · rintro ⟨_, rest, ⟨j, events, events', h₁, h₂, rfl⟩, ht, rfl⟩
    have h₁' := first.route_le h₁
    have h₂' := second.route_le h₂
    obtain rfl : i = j := by omega
    exact ⟨events, _, h₁, ⟨events', rest, h₂, ht, rfl⟩, by simp⟩
  · rintro ⟨events, _, h₁, ⟨events', rest, h₂, ht, rfl⟩, rfl⟩
    exact ⟨events ++ events', rest, ⟨i, events, events', h₁, h₂, rfl⟩, ht, by simp⟩

theorem across_alt_iff (first second : Marked) {t : Trail} :
    Onward.across ((alt first second).route text) K i t ↔
      Onward.across (first.route text) K i t ∨ Onward.across (second.route text) K i t := by
  constructor
  · rintro ⟨j, events, rest, hij, h | h, ht⟩
    · exact .inl ⟨j, events, rest, hij, h, ht⟩
    · exact .inr ⟨j, events, rest, hij, h, ht⟩
  · rintro (⟨j, events, rest, hij, h, ht⟩ | ⟨j, events, rest, hij, h, ht⟩)
    · exact ⟨j, events, rest, hij, .inl h, ht⟩
    · exact ⟨j, events, rest, hij, .inr h, ht⟩

theorem still_alt_iff (first second : Marked) {t : Trail} :
    Onward.still ((alt first second).route text) E i t ↔
      Onward.still (first.route text) E i t ∨ Onward.still (second.route text) E i t := by
  constructor
  · rintro ⟨events, rest, h | h, ht⟩
    · exact .inl ⟨events, rest, h, ht⟩
    · exact .inr ⟨events, rest, h, ht⟩
  · rintro (⟨events, rest, h, ht⟩ | ⟨events, rest, h, ht⟩)
    · exact ⟨events, rest, .inl h, ht⟩
    · exact ⟨events, rest, .inr h, ht⟩

theorem across_opt_iff (greedy : Bool) (body : Marked) {t : Trail} :
    Onward.across ((opt greedy body).route text) K i t ↔
      Onward.across (body.route text) K i t := by
  constructor
  · rintro ⟨j, events, rest, hij, h | ⟨rfl, -, -⟩, ht⟩
    · exact ⟨j, events, rest, hij, h, ht⟩
    · omega
  · rintro ⟨j, events, rest, hij, h, ht⟩
    exact ⟨j, events, rest, hij, .inl h, ht⟩

theorem still_opt_iff (greedy : Bool) (body : Marked) {t : Trail} :
    Onward.still ((opt greedy body).route text) E i t ↔
      Onward.still (body.route text) E i t ∨ E t := by
  constructor
  · rintro ⟨events, rest, h | ⟨-, -, rfl⟩, ht, rfl⟩
    · exact .inl ⟨events, rest, h, ht, rfl⟩
    · exact .inr ht
  · rintro (⟨events, rest, h, ht⟩ | ht)
    · exact ⟨events, rest, .inl h, ht⟩
    · exact ⟨[], t, .inr ⟨rfl, trivial, rfl⟩, ht, rfl⟩

/-- A way over a character of a group is one of its body that closes the group, with the
opening recorded. -/
theorem across_group_iff (index : Nat) (body : Marked) {t : Trail} :
    Onward.across ((group index body).route text) K i t ↔
      ∃ u, Onward.across (body.route text) (.closing text.length index K) i u ∧
        t = u.record ⟨index, true, text.length - i⟩ := by
  constructor
  · rintro ⟨j, _, rest, hij, ⟨events, hr, rfl⟩, hK, rfl⟩
    exact ⟨_, ⟨j, events, _, hij, hr, ⟨rest, hK, rfl⟩, rfl⟩, by simp⟩
  · rintro ⟨_, ⟨j, events, _, hij, hr, ⟨rest, hK, rfl⟩, rfl⟩, rfl⟩
    exact ⟨j, _, rest, hij, ⟨events, hr, rfl⟩, hK, by simp⟩

theorem still_group_iff (index : Nat) (body : Marked) {t : Trail} :
    Onward.still ((group index body).route text) E i t ↔
      ∃ u, Onward.still (body.route text)
          (fun v => ∃ rest, E rest ∧ v = rest.record ⟨index, false, text.length - i⟩) i u ∧
        t = u.record ⟨index, true, text.length - i⟩ := by
  constructor
  · rintro ⟨_, rest, ⟨events, hr, rfl⟩, ht, rfl⟩
    exact ⟨_, ⟨events, _, hr, ⟨rest, ht, rfl⟩, rfl⟩, by simp⟩
  · rintro ⟨_, ⟨events, _, hr, ⟨rest, ht, rfl⟩, rfl⟩, rfl⟩
    exact ⟨_, rest, ⟨events, hr, rfl⟩, ht, by simp⟩

/-! ### Entering -/

/-- Entering a pattern whose marks are right finds a way through it: over a character, as the
marks tell, or over none to the exit. -/
theorem enter_answers (m : Marked) (exit : Thunk (Option Trail)) (hm : m.RightAt text i K)
    (hE : Answers exit.get E) :
    Answers (m.enter (placeAt text i) exit) fun t =>
      Onward.across (m.route text) K i t ∨ Onward.still (m.route text) E i t := by
  induction m generalizing K E exit with
  | empty =>
    refine hE.congr fun t => ?_
    rw [route, across_stay_iff, still_stay_iff, false_or, true_and]
  | char test mark =>
    refine Answers.congr hm fun t => ?_
    rw [route, across_step_iff, still_step_iff, or_false]
  | look condition =>
    by_cases hc : condition.holds (before? text i) text[i]? = true
    · rw [show (look condition).enter (placeAt text i) exit = exit.get from if_pos hc]
      refine hE.congr fun t => ?_
      rw [route, Look.route, across_stay_iff, still_stay_iff, false_or, and_iff_right hc]
    · rw [show (look condition).enter (placeAt text i) exit = none from if_neg hc]
      refine Answers.none_empty.congr fun t => ?_
      rw [route, Look.route, across_stay_iff, still_stay_iff, false_or]
      exact ⟨False.elim, fun h => hc h.1⟩
  | seq first second ih₁ ih₂ =>
    have hrest := ih₂ exit hm.2 hE
    refine (ih₁ ⟨fun _ => second.enter (placeAt text i) exit⟩ hm.1 hrest).congr fun t => ?_
    rw [across_seq_iff, still_seq_iff, still_or_iff, or_assoc]
  | alt first second ih₁ ih₂ =>
    refine ((ih₁ exit hm.1 hE).orElse (ih₂ exit hm.2 hE)).congr fun t => ?_
    rw [across_alt_iff, still_alt_iff, or_or_or_comm]
  | opt greedy body ih =>
    refine (Answers.prefer greedy ⟨fun _ => body.enter (placeAt text i) exit⟩ exit
      (ih exit hm hE) hE).congr fun t => ?_
    rw [across_opt_iff, still_opt_iff, or_assoc]
  | star greedy body ih =>
    refine (Answers.prefer greedy
      ⟨fun _ => body.enter (placeAt text i) ⟨fun _ => none⟩⟩ exit
      (ih ⟨fun _ => none⟩ hm Answers.none_empty) hE).mono (fun t => ?_) ?_
    · rintro ((h | ⟨_, _, _, hf, -⟩) | ht)
      · exact .inl (body.across_loop_of_across h)
      · exact hf.elim
      · exact .inr ⟨[], t, ⟨0, rfl, trivial, rfl⟩, ht, rfl⟩
    · rintro ⟨t, ⟨j, _, rest, hij, ⟨n, h⟩, hK, -⟩ | ⟨_, rest, -, ht, -⟩⟩
      · obtain ⟨u, hu⟩ := body.across_loop_of_copies n hij h hK
        exact ⟨u, .inl (.inl hu)⟩
      · exact ⟨rest, .inr ht⟩
  | plus greedy body ih =>
    refine (ih exit hm hE).mono (fun t => ?_) ?_
    · rintro (h | ⟨events, rest, h, ht, rfl⟩)
      · exact .inl (body.across_plus_of_across greedy h)
      · exact .inr ⟨events, rest, ⟨i, events, [], h, ⟨0, rfl, trivial, rfl⟩, by simp⟩, ht, rfl⟩
    · rintro ⟨t, h | ⟨_, rest, ⟨j, first, second, h₁, h₂, -⟩, ht, -⟩⟩
      · obtain ⟨u, hu⟩ := body.across_of_across_plus greedy ⟨t, h⟩
        exact ⟨u, .inl hu⟩
      · have h₁' := body.route_le h₁
        have h₂' := body.loop_le h₂
        obtain rfl : i = j := by omega
        exact ⟨_, .inr ⟨first, rest, h₁, ht, rfl⟩⟩
  | group index body ih =>
    have hclosed := hE.map_record ⟨index, false, text.length - i⟩
    refine ((ih ⟨fun _ => exit.get.map (.record ⟨index, false, text.length - i⟩)⟩
      hm hclosed).map_record ⟨index, true, text.length - i⟩).congr fun t => ?_
    rw [across_group_iff, still_group_iff, ← exists_or]
    exact exists_congr fun u => or_and_right

/-! ### Retreating -/

@[simp] theorem route_retreat (m : Marked) (place : Place)
    (leave : Thunk (Option Trail) → Option Trail) :
    (m.retreat place leave).route text = m.route text := by
  induction m generalizing leave <;> simp [retreat, route, *]

/-- The way on from the end of a pattern. Where it may loop back into the pattern, the ways
over a character from its start count as ways on; those through parts that have been passed
at this place may be missing, provided that the others cover them. So an answer is owed only
if the part `D` that is known otherwise does not give one. -/
structure Leaves (text : List Char) (i : Nat) (m : Marked) (K : Onward)
    (leave : Thunk (Option Trail) → Option Trail) : Prop where
  sound : ∀ back : Thunk (Option Trail),
    (∀ t, back.get = some t → Onward.across (m.route text) K i t) →
    ∀ t, leave back = some t → K i t
  complete : ∀ (back : Thunk (Option Trail)) (D : Prop),
    ((∃ t, Onward.across (m.route text) K i t) → back.get.isSome = true ∨ D) →
    (∃ t, K i t) → (leave back).isSome = true ∨ D

variable {leave : Thunk (Option Trail) → Option Trail}

namespace Leaves

theorem seq_first {first second : Marked} (h : Leaves text i (seq first second) K leave)
    (hm : second.RightAt text i K) :
    Leaves text i first (.via (second.route text) K) fun back =>
      second.enter (placeAt text i) ⟨fun _ => leave back⟩ := by
  have henter (back : Thunk (Option Trail)) :=
    second.enter_answers ⟨fun _ => leave back⟩ hm (Answers.self (leave back))
  constructor
  · intro back hback t ht
    have hleave := h.sound back fun t ht => (across_seq_iff first second).mpr (.inl (hback t ht))
    rw [via_iff]
    refine ((henter back).sound t ht).imp_right ?_
    rintro ⟨events, rest, hr, hrest, rfl⟩
    exact ⟨events, rest, hr, hleave rest hrest, rfl⟩
  · rintro back D hback ⟨t, ht⟩
    have hleave := h.complete back (D ∨ ∃ t, Onward.across (second.route text) K i t) (by
      rintro ⟨t, ht⟩
      rcases (across_seq_iff first second).mp ht with ht | ⟨_, rest, _, hrest, -⟩
      · exact (hback ⟨t, ht⟩).imp_right .inl
      · exact .inr (.inr ⟨rest, hrest⟩))
    rcases (via_iff second).mp ht with ht | ⟨events, rest, hr, hrest, -⟩
    · exact .inl ((henter back).complete ⟨t, .inl ht⟩)
    · rcases hleave ⟨rest, hrest⟩ with hsome | hD | ⟨u, hu⟩
      · obtain ⟨u, hu⟩ := Option.isSome_iff_exists.mp hsome
        exact .inl ((henter back).complete ⟨_, .inr ⟨events, u, hr, hu, rfl⟩⟩)
      · exact .inr hD
      · exact .inl ((henter back).complete ⟨u, .inl hu⟩)

theorem seq_second {first second : Marked} (h : Leaves text i (seq first second) K leave)
    (hm : first.RightAt text i (.via (second.route text) K)) :
    Leaves text i second K fun back =>
      leave ⟨fun _ => first.enter (placeAt text i) back⟩ := by
  have henter (back : Thunk (Option Trail)) :=
    first.enter_answers back hm (Answers.self back.get)
  constructor
  · intro back hback
    refine h.sound _ fun t ht => (across_seq_iff first second).mpr ?_
    refine ((henter back).sound t ht).imp_right ?_
    rintro ⟨events, rest, hr, hrest, rfl⟩
    exact ⟨events, rest, hr, hback rest hrest, rfl⟩
  · intro back D hback
    refine h.complete _ D ?_
    rintro ⟨t, ht⟩
    rcases (across_seq_iff first second).mp ht with ht | ⟨events, rest, hr, hrest, -⟩
    · exact .inl ((henter back).complete ⟨t, .inl ht⟩)
    · rcases hback ⟨rest, hrest⟩ with hsome | hD
      · obtain ⟨u, hu⟩ := Option.isSome_iff_exists.mp hsome
        exact .inl ((henter back).complete ⟨_, .inr ⟨events, u, hr, hu, rfl⟩⟩)
      · exact .inr hD

/-- The ways over a character of a choice, when one of its branches has been passed: the way
back into that branch, or entering the other one. -/
theorem alt_branch {first second branch : Marked} (h : Leaves text i (alt first second) K leave)
    (other : Marked) (hother : other.RightAt text i K)
    (hiff : ∀ t, Onward.across ((alt first second).route text) K i t ↔
      Onward.across (branch.route text) K i t ∨ Onward.across (other.route text) K i t)
    (join : Option Trail → Option Trail → Option Trail)
    (hjoin : ∀ a b t, join a b = some t → a = some t ∨ b = some t)
    (hjoin' : ∀ a b, a.isSome = true ∨ b.isSome = true → (join a b).isSome = true) :
    Leaves text i branch K fun back =>
      leave ⟨fun _ => join back.get (other.enter (placeAt text i) ⟨fun _ => none⟩)⟩ := by
  have henter : Answers (other.enter (placeAt text i) ⟨fun _ => none⟩)
      (Onward.across (other.route text) K i) := by
    refine (other.enter_answers ⟨fun _ => none⟩ hother Answers.none_empty).congr fun t => ?_
    simp [Onward.still]
  constructor
  · intro back hback
    refine h.sound _ fun t ht => (hiff t).mpr ?_
    exact (hjoin _ _ t ht).imp (hback t) (henter.sound t)
  · intro back D hback
    refine h.complete _ D ?_
    rintro ⟨t, ht⟩
    rcases (hiff t).mp ht with ht | ht
    · exact (hback ⟨t, ht⟩).imp_left fun hs => hjoin' _ _ (.inl hs)
    · exact .inl (hjoin' _ _ (.inr (henter.complete ⟨t, ht⟩)))

theorem alt_first {first second : Marked} (h : Leaves text i (alt first second) K leave)
    (hm : second.RightAt text i K) :
    Leaves text i first K fun back =>
      leave ⟨fun _ => back.get.orElse fun _ =>
        second.enter (placeAt text i) ⟨fun _ => none⟩⟩ := by
  refine h.alt_branch second hm (fun t => across_alt_iff first second)
    (fun a b => a.orElse fun _ => b) (fun a b t ht => ?_) (fun a b hs => ?_)
  · cases a <;> simp_all
  · cases a <;> simp_all

theorem alt_second {first second : Marked} (h : Leaves text i (alt first second) K leave)
    (hm : first.RightAt text i K) :
    Leaves text i second K fun back =>
      leave ⟨fun _ => (first.enter (placeAt text i) ⟨fun _ => none⟩).orElse fun _ =>
        back.get⟩ := by
  refine h.alt_branch first hm (fun t => (across_alt_iff first second).trans Or.comm)
    (fun a b => b.orElse fun _ => a) (fun a b t ht => ?_) (fun a b hs => ?_)
  · cases b <;> simp_all
  · cases b <;> simp_all

theorem opt {greedy : Bool} {body : Marked} (h : Leaves text i (opt greedy body) K leave) :
    Leaves text i body K leave := by
  constructor
  · intro back hback
    exact h.sound back fun t ht => (across_opt_iff greedy body).mpr (hback t ht)
  · intro back D hback
    exact h.complete back D fun ⟨t, ht⟩ => hback ⟨t, (across_opt_iff greedy body).mp ht⟩

theorem star {greedy : Bool} {body : Marked} (h : Leaves text i (star greedy body) K leave) :
    Leaves text i body (.via (body.route text).loop K) fun back =>
      prefer greedy back ⟨fun _ => leave ⟨fun _ => none⟩⟩ := by
  have hprefer (back : Thunk (Option Trail)) :=
    Answers.prefer greedy back ⟨fun _ => leave ⟨fun _ => none⟩⟩ (Answers.self _)
      (Answers.self (leave ⟨fun _ => none⟩))
  constructor
  · intro back hback t ht
    rcases (hprefer back).sound t ht with ht | ht
    · obtain ⟨j, events, rest, -, hr⟩ := body.across_loop_of_across (hback t ht)
      exact ⟨j, events, rest, hr⟩
    · have hK := h.sound ⟨fun _ => none⟩ (fun u (hu : none = some u) => by simp at hu) t ht
      exact ⟨i, [], t, ⟨0, rfl, trivial, rfl⟩, hK, rfl⟩
  · intro back D hback hvia
    -- what the way back covers is known otherwise when the loop is left
    have hleave := h.complete ⟨fun _ => none⟩ (back.get.isSome = true ∨ D) (by
      rintro ⟨_, j, _, _, hij, ⟨n, hr⟩, hK, -⟩
      exact .inr (hback (body.across_loop_of_copies n hij hr hK)))
    have hsome (o : Option Trail) (ho : o.isSome = true) : ∃ t, o = some t :=
      Option.isSome_iff_exists.mp ho
    have hback' (ho : back.get.isSome = true) :=
      (hprefer back).complete ((hsome _ ho).imp fun _ => .inl)
    rcases body.loop_covered hvia with hacross | hK
    · exact (hback hacross).imp_left hback'
    · rcases hleave hK with ho | ho | hD
      · exact .inl ((hprefer back).complete ((hsome _ ho).imp fun _ => .inr))
      · exact .inl (hback' ho)
      · exact .inr hD

theorem plus {greedy : Bool} {body : Marked} (h : Leaves text i (plus greedy body) K leave) :
    Leaves text i body (.via (body.route text).loop K) fun back =>
      prefer greedy back ⟨fun _ => leave back⟩ := by
  have hprefer (back : Thunk (Option Trail)) :=
    Answers.prefer greedy back ⟨fun _ => leave back⟩ (Answers.self _) (Answers.self (leave back))
  constructor
  · intro back hback t ht
    rcases (hprefer back).sound t ht with ht | ht
    · obtain ⟨j, events, rest, -, hr⟩ := body.across_loop_of_across (hback t ht)
      exact ⟨j, events, rest, hr⟩
    · have hK := h.sound back (fun t ht => body.across_plus_of_across greedy (hback t ht)) t ht
      exact ⟨i, [], t, ⟨0, rfl, trivial, rfl⟩, hK, rfl⟩
  · intro back D hback hvia
    have hleave := h.complete back D fun hplus => hback (body.across_of_across_plus greedy hplus)
    have hsome (o : Option Trail) (ho : o.isSome = true) : ∃ t, o = some t :=
      Option.isSome_iff_exists.mp ho
    rcases body.loop_covered hvia with hacross | hK
    · exact (hback hacross).imp_left fun ho =>
        (hprefer back).complete ((hsome _ ho).imp fun _ => .inl)
    · exact (hleave hK).imp_left fun ho =>
        (hprefer back).complete ((hsome _ ho).imp fun _ => .inr)

theorem group {index : Nat} {body : Marked} (h : Leaves text i (group index body) K leave) :
    Leaves text i body (.closing text.length index K) fun back =>
      (leave ⟨fun _ => back.get.map (.record ⟨index, true, text.length - i⟩)⟩).map
        (.record ⟨index, false, text.length - i⟩) := by
  constructor
  · intro back hback t ht
    obtain ⟨rest, hrest, rfl⟩ := Option.map_eq_some_iff.mp ht
    refine ⟨rest, h.sound _ (fun u hu => ?_) rest hrest, rfl⟩
    obtain ⟨v, hv, rfl⟩ := Option.map_eq_some_iff.mp hu
    exact (across_group_iff index body).mpr ⟨v, hback v hv, rfl⟩
  · rintro back D hback ⟨_, rest, hK, -⟩
    have hleave := h.complete ⟨fun _ => back.get.map (.record ⟨index, true, text.length - i⟩)⟩ D (by
      rintro ⟨t, ht⟩
      obtain ⟨u, hu, -⟩ := (across_group_iff index body).mp ht
      exact (hback ⟨u, hu⟩).imp_left (Option.isSome_map ..).trans)
    exact (hleave ⟨rest, hK⟩).imp_left fun ho => by simpa using ho

end Leaves

/-- Retreating over a character makes the marks right before it. -/
theorem retreat_right (m : Marked) (hm : m.RightAt text (i + 1) K)
    (hl : Leaves text (i + 1) m K leave) :
    (m.retreat (placeAt text (i + 1)) leave).RightAt text i K := by
  induction m generalizing K leave with
  | empty => trivial
  | look condition => trivial
  | char test mark =>
    have hmark : Answers mark
        (Onward.across ((char test mark).route text) K (i + 1)) :=
      Answers.congr hm fun t => across_step_iff.symm
    change Answers (if text[i]?.any test = true then leave ⟨fun _ => mark⟩ else none) _
    by_cases hc : text[i]?.any test = true
    · rw [if_pos hc]
      have hc' : ∃ c, text[i]? = some c ∧ test c = true := by
        simpa [Option.any_eq_true] using hc
      refine ⟨fun t ht => ⟨hc', hl.sound ⟨fun _ => mark⟩ hmark.sound t ht⟩, fun ⟨t, ht⟩ => ?_⟩
      have := hl.complete ⟨fun _ => mark⟩ False (fun h => .inl (hmark.complete h)) ⟨t, ht.2⟩
      simpa using this
    · rw [if_neg hc]
      refine Answers.none_empty.congr fun t => ⟨False.elim, fun ht => hc ?_⟩
      simpa [Option.any_eq_true] using ht.1
  | seq first second ih₁ ih₂ =>
    refine ⟨?_, ih₂ hm.2 (hl.seq_second hm.1)⟩
    rw [route_retreat]
    exact ih₁ hm.1 (hl.seq_first hm.2)
  | alt first second ih₁ ih₂ =>
    exact ⟨ih₁ hm.1 (hl.alt_first hm.2), ih₂ hm.2 (hl.alt_second hm.1)⟩
  | opt greedy body ih => exact ih hm hl.opt
  | star greedy body ih =>
    change (body.retreat _ _).RightAt text i (.via ((body.retreat _ _).route text).loop K)
    rw [route_retreat]
    exact ih hm hl.star
  | plus greedy body ih =>
    change (body.retreat _ _).RightAt text i (.via ((body.retreat _ _).route text).loop K)
    rw [route_retreat]
    exact ih hm hl.plus
  | group index body ih => exact ih hm hl.group

/-! ### Patterns without marks -/

/-- No mark is set. -/
def Unmarked : Marked → Prop
  | .empty => True
  | .char _ mark => mark = none
  | .look _ => True
  | .seq first second => first.Unmarked ∧ second.Unmarked
  | .alt first second => first.Unmarked ∧ second.Unmarked
  | .opt _ body => body.Unmarked
  | .star _ body => body.Unmarked
  | .plus _ body => body.Unmarked
  | .group _ body => body.Unmarked

/-- At the end of the text no character follows, so marks that are not set are right. -/
theorem Unmarked.right (m : Marked) (hm : m.Unmarked) : m.RightAt text text.length K := by
  induction m generalizing K with
  | empty => trivial
  | look condition => trivial
  | char test mark =>
    obtain rfl : mark = none := hm
    exact Answers.none_empty.congr fun t => by simp
  | seq first second ih₁ ih₂ => exact ⟨ih₁ hm.1, ih₂ hm.2⟩
  | alt first second ih₁ ih₂ => exact ⟨ih₁ hm.1, ih₂ hm.2⟩
  | opt greedy body ih => exact ih hm
  | star greedy body ih => exact ih hm
  | plus greedy body ih => exact ih hm
  | group index body ih => exact ih hm

theorem unmarked_copies {body : Marked} (hb : body.Unmarked) : ∀ n, (copies body n).Unmarked
  | 0 => trivial
  | 1 => hb
  | n + 2 => ⟨hb, unmarked_copies hb (n + 1)⟩

theorem unmarked_upTo (greedy : Bool) {body : Marked} (hb : body.Unmarked) :
    ∀ n, (upTo greedy body n).Unmarked
  | 0 => trivial
  | 1 => hb
  | n + 2 => ⟨hb, unmarked_upTo greedy hb (n + 1)⟩

theorem unmarked_times (min : Nat) (max : Option Nat) (greedy solid : Bool) {body : Marked}
    (hb : body.Unmarked) : (times min max greedy solid body).Unmarked := by
  unfold times
  split
  · split_ifs
    · exact unmarked_copies hb _
    · exact unmarked_upTo greedy hb _
    · exact ⟨unmarked_copies hb _, unmarked_upTo greedy hb _⟩
  · split_ifs
    · exact hb
    · exact hb
  · exact hb
  · exact ⟨unmarked_copies hb _, hb⟩

theorem unmarked_ofText : ∀ part : List Char, (ofText part).Unmarked
  | [] => trivial
  | [_] => rfl
  | _ :: c :: cs => ⟨rfl, unmarked_ofText (c :: cs)⟩

mutual

theorem unmarked_ofExpr : ∀ e : Expr, (ofExpr e).Unmarked
  | .empty => trivial
  | .literal part => unmarked_ofText part
  | .chars _ => rfl
  | .look _ => trivial
  | .repeated min max greedy body => unmarked_times min max greedy _ (unmarked_ofExpr body)
  | .group _ _ body => unmarked_ofExpr body
  | .row items => unmarked_ofRow items
  | .choice branches => unmarked_ofChoice branches

theorem unmarked_ofRow : ∀ es : List Expr, (ofRow es).Unmarked
  | [] => trivial
  | [e] => unmarked_ofExpr e
  | e :: e' :: es => ⟨unmarked_ofExpr e, unmarked_ofRow (e' :: es)⟩

theorem unmarked_ofChoice : ∀ es : List Expr, (ofChoice es).Unmarked
  | [] => rfl
  | [e] => unmarked_ofExpr e
  | e :: e' :: es => ⟨unmarked_ofExpr e, unmarked_ofChoice (e' :: es)⟩

end

/-! ### Reading a text -/

/-- A match may stop anywhere. -/
def stopping (text : List Char) : Onward := fun i t => t = ⟨[], text.length - i⟩

/-- What a reading knows at a place: the best match from there and from every later place, and
marks that are right at the place before. -/
structure ReadsFrom (text : List Char) (m : Marked) (i : Nat) (r : Reading) : Prop where
  left : r.left = text.length - i
  length : r.starts.length = text.length - i + 1
  starts : ∀ k found, r.starts[k]? = some found →
    Answers found (Onward.via (m.route text) (stopping text) (i + k))
  route : r.pattern.route text = m.route text
  right : ∀ j, i = j + 1 → r.pattern.RightAt text j (stopping text)

theorem arrive_readsFrom {m pattern : Marked} {starts : List (Option Trail)}
    (hroute : pattern.route text = m.route text)
    (hright : pattern.RightAt text i (stopping text))
    (hlength : starts.length = text.length - i)
    (hstarts : ∀ k found, starts[k]? = some found →
      Answers found (Onward.via (m.route text) (stopping text) (i + 1 + k))) :
    ReadsFrom text m i (arrive (placeAt text i) starts pattern) where
  left := rfl
  length := by simp [arrive, hlength]
  starts := by
    intro k found hk
    cases k with
    | zero =>
      obtain rfl : pattern.enter (placeAt text i) _ = found := by simpa [arrive] using hk
      rw [Nat.add_zero, ← hroute]
      refine (pattern.enter_answers _ hright (Answers.self _)).congr fun t => ?_
      rw [via_iff]
      simp [Thunk.get, stopping, placeAt, eq_comm, Onward.still]
    | succ k =>
      have := hstarts k found (by simpa [arrive] using hk)
      rwa [show i + 1 + k = i + (k + 1) by omega] at this
  route := by simp [arrive, hroute]
  right := by
    rintro j rfl
    refine pattern.retreat_right hright ⟨fun back _ t ht => ?_, fun back D _ _ => .inl rfl⟩
    exact (Option.some.inj ht).symm

theorem read_readsFrom (m : Marked) (hm : m.Unmarked) :
    ∀ (rest : List Char) (i : Nat), text.drop i = rest → i ≤ text.length →
      ReadsFrom text m i (m.read (before? text i) rest)
  | [], i, hrest, hi => by
    obtain rfl : i = text.length := by
      have := List.drop_eq_nil_iff.mp hrest
      omega
    have hplace : (⟨before? text text.length, none, 0⟩ : Place) = placeAt text text.length := by
      simp [placeAt]
    rw [read, hplace]
    exact arrive_readsFrom rfl (Unmarked.right m hm) (by simp) (by simp)
  | c :: cs, i, hrest, hi => by
    have hlt : i < text.length := by
      by_contra hge
      rw [List.drop_eq_nil_of_le (by omega)] at hrest
      simp at hrest
    rw [List.drop_eq_getElem_cons hlt, List.cons.injEq] at hrest
    obtain ⟨rfl, hcs⟩ := hrest
    have later := read_readsFrom m hm cs (i + 1) hcs hlt
    have hbefore : before? text (i + 1) = some text[i] := by simp [before?, hlt]
    rw [hbefore] at later
    have hplace : (⟨before? text i, some text[i], (m.read (some text[i]) cs).left + 1⟩ : Place) =
        placeAt text i := by
      simp [placeAt, later.left, hlt]
      omega
    rw [read, hplace]
    exact arrive_readsFrom later.route (later.right i rfl) (by rw [later.length]; omega)
      later.starts

end Marked

/-! ### Matches that start at a place -/

/-- At every place of a text a search has come back with a trail along a route of the pattern,
unless there is no route from there. -/
theorem Expr.starts_answers (e : Expr) (text : List Char) {i : Nat} {found : Option Trail}
    (h : (e.starts text)[i]? = some found) :
    Answers found fun t =>
      ∃ j events, e.route text i j events ∧ t = ⟨events, text.length - j⟩ := by
  have hread := Marked.read_readsFrom (Marked.ofExpr e) (Marked.unmarked_ofExpr e) text 0
    List.drop_zero (Nat.zero_le _)
  refine (hread.starts i found h).congr fun t => ?_
  rw [Marked.route_ofExpr, Nat.zero_add]
  constructor
  · rintro ⟨j, events, _, hr, rfl, rfl⟩
    exact ⟨j, events, hr, by simp [Trail.prepend]⟩
  · rintro ⟨j, events, hr, rfl⟩
    exact ⟨j, events, _, hr, rfl, by simp [Trail.prepend]⟩

theorem Expr.length_starts (e : Expr) (text : List Char) :
    (e.starts text).length = text.length + 1 := by
  have hread := Marked.read_readsFrom (Marked.ofExpr e) (Marked.unmarked_ofExpr e) text 0
    List.drop_zero (Nat.zero_le _)
  exact hread.length

end QueryFunctions.Pattern
