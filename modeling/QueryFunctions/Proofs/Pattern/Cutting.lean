import QueryFunctions.Proofs.Pattern.Occurrence

/-! Cutting a text at the matches of a pattern. Where the pattern nowhere matches the empty
text, the cut is made at its leftmost matches: each starts at the first place, from the end of
the one before on, from which the pattern has a route. The gaps and the matches put together
again are the text, and replacing puts other texts in the places of the matches. -/

namespace QueryFunctions.Pattern

/-- A match of the pattern starts at a place. -/
def Expr.StartsAt (e : Expr) (text : List Char) (i : Nat) : Prop :=
  ∃ j events, e.route text i j events

/-- The leftmost matches from a place on, none of them empty, and each starting where the one
before stops or later. -/
inductive LeftmostFrom (e : Expr) (groups : Nat) (text : List Char) : Nat → List Occurrence → Prop
  | done {i : Nat} (none : ∀ k, i ≤ k → k ≤ text.length → ¬ e.StartsAt text k) :
    LeftmostFrom e groups text i []
  | next {i start stop : Nat} {events : List GroupEvent} {rest : List Occurrence}
    (le : i ≤ start) (lt : start < stop) (within : stop ≤ text.length)
    (route : e.route text start stop events)
    (first : ∀ k, i ≤ k → k < start → ¬ e.StartsAt text k)
    (later : LeftmostFrom e groups text stop rest) :
    LeftmostFrom e groups text i (.ofRoute groups text.length start stop events :: rest)

/-- The gaps around occurrences, from a place on. -/
def gapsAround (text : List Char) : Nat → List Occurrence → List (List Char)
  | i, [] => [text.drop i]
  | i, o :: os => text.extract i o.start :: gapsAround text o.stop os

/-- Gaps with other texts between them. -/
def weave : List (List Char) → List (List Char) → List Char
  | [], _ => []
  | gap :: _, [] => gap
  | gap :: gaps, part :: parts => gap ++ part ++ weave gaps parts

/-- The segmentation of a text, from a place on, at some occurrences. -/
def Segmentation.ofOccurrences (text : List Char) : Nat → List Occurrence → Segmentation
  | i, [] => ⟨text.drop i, []⟩
  | i, o :: os =>
    let later := ofOccurrences text o.stop os
    ⟨text.extract i o.start, (o.toMatch text, later.first) :: later.rest⟩

theorem drop_eq_extract_append {text : List Char} {i j : Nat} (h : i ≤ j) :
    text.drop i = text.extract i j ++ text.drop j := by
  have hdrop : text.drop j = (text.drop i).drop (j - i) := by
    rw [List.drop_drop, Nat.add_sub_cancel' h]
  rw [hdrop, List.extract_eq_take_drop, List.take_append_drop]

namespace Segmentation

variable {text : List Char}

theorem gaps_ofOccurrences (i : Nat) (os : List Occurrence) :
    (ofOccurrences text i os).gaps = gapsAround text i os := by
  induction os generalizing i with
  | nil => rfl
  | cons o os ih =>
    have := ih o.stop
    simp only [gaps] at this
    simp [gaps, ofOccurrences, gapsAround, this]

theorem isEmpty_rest_ofOccurrences (i : Nat) (os : List Occurrence) :
    (ofOccurrences text i os).rest.isEmpty = os.isEmpty := by
  cases os <;> rfl

theorem replace_ofOccurrences (expand : Match → List Char) (i : Nat) (os : List Occurrence) :
    (ofOccurrences text i os).replace expand =
      weave (gapsAround text i os) (os.map fun o => expand (o.toMatch text)) := by
  induction os generalizing i with
  | nil => simp [replace, ofOccurrences, gapsAround, weave]
  | cons o os ih =>
    have := ih o.stop
    simp only [replace] at this
    simp [replace, ofOccurrences, gapsAround, weave, ← this]

/-- A character before all occurrences belongs to the first gap. -/
theorem ofOccurrences_cons {i : Nat} {os : List Occurrence} (hi : i < text.length)
    (hos : ∀ o ∈ os, i < o.start) :
    ofOccurrences text i os = (ofOccurrences text (i + 1) os).cons text[i] := by
  cases os with
  | nil => simp [ofOccurrences, cons]
  | cons o os =>
    have ho := hos o (by simp)
    simp only [ofOccurrences, cons, List.extract_eq_take_drop]
    rw [List.drop_eq_getElem_cons hi, show o.start - i = o.start - (i + 1) + 1 by omega,
      List.take_succ_cons]

end Segmentation

/-! ### Leftmost matches -/

namespace LeftmostFrom

variable {e : Expr} {groups i : Nat} {text : List Char} {os : List Occurrence}

theorem of_succ (h : LeftmostFrom e groups text (i + 1) os) (hi : ¬ e.StartsAt text i) :
    LeftmostFrom e groups text i os := by
  cases h with
  | done none =>
    refine .done fun k hk => ?_
    rcases hk.lt_or_eq with hk | rfl
    · exact none k hk
    · exact fun _ => hi
  | next le lt within route first later =>
    refine .next (by omega) lt within route (fun k hk => ?_) later
    rcases hk.lt_or_eq with hk | rfl
    · exact first k hk
    · exact fun _ => hi

theorem le_start (h : LeftmostFrom e groups text i os) : ∀ o ∈ os, i ≤ o.start := by
  induction h with
  | done none => simp
  | next le lt within route first later ih =>
    intro o ho
    rcases List.mem_cons.mp ho with rfl | ho
    · exact le
    · exact (le.trans lt.le).trans (ih o ho)

/-- Every occurrence is a match that is not empty, and its groups lie within it. -/
theorem mem (h : LeftmostFrom e groups text i os) : ∀ o ∈ os,
    o.start < o.stop ∧ o.stop ≤ text.length ∧
      ∃ events, e.route text o.start o.stop events ∧
        o = .ofRoute groups text.length o.start o.stop events := by
  induction h with
  | done none => simp
  | next le lt within route first later ih =>
    intro o ho
    rcases List.mem_cons.mp ho with rfl | ho
    · exact ⟨lt, within, _, route, rfl⟩
    · exact ih o ho

theorem sorted (h : LeftmostFrom e groups text i os) :
    os.Pairwise fun a b => a.stop ≤ b.start := by
  induction h with
  | done none => exact .nil
  | next le lt within route first later ih =>
    exact List.pairwise_cons.mpr ⟨later.le_start, ih⟩

/-- Wherever a match could start, one of the occurrences is. -/
theorem covers (h : LeftmostFrom e groups text i os) {k : Nat} (hik : i ≤ k)
    (hk : k ≤ text.length) (hs : e.StartsAt text k) : ∃ o ∈ os, o.start ≤ k ∧ k < o.stop := by
  induction h with
  | done none => exact absurd hs (none k hik hk)
  | @next i start stop events rest le lt within route first later ih =>
    by_cases hstart : k < start
    · exact absurd hs (first k hik hstart)
    · by_cases hstop : k < stop
      · exact ⟨_, List.mem_cons_self, by simpa [Occurrence.ofRoute] using hstart, hstop⟩
      · obtain ⟨o, ho, h⟩ := ih (by omega)
        exact ⟨o, List.mem_cons_of_mem _ ho, h⟩

theorem length_le (h : LeftmostFrom e groups text i os) : os.length ≤ text.length - i := by
  induction h with
  | done none => exact Nat.zero_le _
  | next le lt within route first later ih =>
    rw [List.length_cons]
    omega

/-- Gaps and matches in turn are the text. -/
theorem weave_texts (h : LeftmostFrom e groups text i os) :
    weave (gapsAround text i os) (os.map (·.text text)) = text.drop i := by
  induction h with
  | done none => rfl
  | @next i start stop events rest le lt within route first later ih =>
    change text.extract i start ++ text.extract start stop ++
      weave (gapsAround text stop rest) (rest.map (·.text text)) = _
    rw [ih, List.append_assoc, ← drop_eq_extract_append lt.le, ← drop_eq_extract_append le]

end LeftmostFrom

/-! ### The cut -/

/-- Trails for the places from `i` on, as a search comes back with them. -/
def Searched (e : Expr) (text : List Char) (i : Nat) (starts : List (Option Trail)) : Prop :=
  ∀ k found, starts[k]? = some found →
    Answers found fun t =>
      ∃ j events, e.route text (i + k) j events ∧ t = ⟨events, text.length - j⟩

namespace Searched

variable {e : Expr} {text : List Char} {i : Nat} {found : Option Trail}
  {starts : List (Option Trail)}

theorem head (h : Searched e text i (found :: starts)) :
    Answers found fun t => ∃ j events, e.route text i j events ∧ t = ⟨events, text.length - j⟩ :=
  h 0 found rfl

theorem tail (h : Searched e text i (found :: starts)) : Searched e text (i + 1) starts := by
  intro k found' hk
  have := h (k + 1) found' hk
  rwa [show i + (k + 1) = i + 1 + k by omega] at this

end Searched

variable {e : Expr} {text : List Char}

/-- A match that is found at a place is taken, and as many characters are left out as it has. -/
theorem segment_found {i j groups : Nat} {events : List GroupEvent} {c : Char} {cs : List Char}
    {later : List (Option Trail)} (hrest : text.drop i = c :: cs) (hij : i < j)
    (hj : j ≤ text.length) (hroute : e.route text i j events) :
    segment groups (c :: cs).length 0 (c :: cs) (some ⟨events, text.length - j⟩ :: later) =
      let after := segment groups cs.length (j - i - 1) cs later
      ⟨[], ((Occurrence.ofRoute groups text.length i j events).toMatch text, after.first) ::
        after.rest⟩ := by
  have hleft : (c :: cs).length = text.length - i := by rw [← hrest, List.length_drop]
  have htaken : (c :: cs).length - (text.length - j) = j - i - 1 + 1 := by omega
  obtain ⟨hbetween, hclosed⟩ := e.route_events hroute
  have hmatch : (⟨events, text.length - j⟩ : Trail).toMatch groups (text.length - i)
      (text.drop i) = _ := toMatch_ofRoute rfl hbetween hclosed hj
  rw [hrest, ← hleft] at hmatch
  rw [segment, htaken, hmatch]
  rfl

/-- Cutting from a place on, with some characters of a match still to pass. -/
theorem segment_leftmost (groups : Nat) (hempty : ∀ k, k ≤ text.length → ¬ e.EmptyAt text k)
    (rest : List Char) :
    ∀ (i skip : Nat) (starts : List (Option Trail)), i + rest.length = text.length →
      text.drop i = rest → skip ≤ rest.length → starts.length = rest.length + 1 →
      Searched e text i starts →
      ∃ os, LeftmostFrom e groups text (i + skip) os ∧
        segment groups rest.length skip rest starts = .ofOccurrences text (i + skip) os := by
  induction rest with
  | nil =>
    intro i skip starts hi hrest hskip hlength hstarts
    obtain rfl : skip = 0 := by simpa using hskip
    obtain rfl : i = text.length := by simpa using hi
    obtain ⟨found, rfl⟩ := List.length_eq_one_iff.mp (by simpa using hlength)
    refine ⟨[], .done fun k hk hk' hs => ?_, by simp [segment, Segmentation.ofOccurrences]⟩
    obtain rfl : k = text.length := by omega
    obtain ⟨j, events, hr⟩ := hs
    have hj := e.route_within hr hk'
    have hj' := e.route_le hr
    obtain rfl : j = text.length := by omega
    exact hempty _ hk' ⟨events, hr⟩
  | cons c cs ih =>
    intro i skip starts hi hrest hskip hlength hstarts
    have hlt : i < text.length := by simp at hi; omega
    have hcs : text.drop (i + 1) = cs := by rw [← List.tail_drop, hrest, List.tail_cons]
    obtain ⟨found, later, rfl⟩ := List.exists_cons_of_length_eq_add_one hlength
    have hlater : later.length = cs.length + 1 := by simpa using hlength
    have hi' : i + 1 + cs.length = text.length := by simp at hi; omega
    cases skip with
    | succ skip =>
      obtain ⟨os, hos, hseg⟩ := ih (i + 1) skip later hi' hcs (by simpa using hskip) hlater
        hstarts.tail
      rw [show i + 1 + skip = i + (skip + 1) by omega] at hos hseg
      exact ⟨os, hos, by simpa [segment] using hseg⟩
    | zero =>
      cases found with
      | none =>
        obtain ⟨os, hos, hseg⟩ := ih (i + 1) 0 later hi' hcs (Nat.zero_le _) hlater hstarts.tail
        refine ⟨os, hos.of_succ fun ⟨j, events, hr⟩ => ?_, ?_⟩
        · simpa using hstarts.head.complete ⟨_, j, events, hr, rfl⟩
        · rw [Nat.add_zero] at hseg ⊢
          rw [List.drop_eq_getElem_cons hlt, List.cons.injEq] at hrest
          rw [Segmentation.ofOccurrences_cons hlt hos.le_start, ← hseg, hrest.1]
          simp [segment]
      | some trail =>
        obtain ⟨j, events, hr, rfl⟩ := hstarts.head.sound trail rfl
        have hj := e.route_within hr hlt.le
        have hij : i < j := by
          refine lt_of_le_of_ne (e.route_le hr) ?_
          rintro rfl
          exact hempty i hlt.le ⟨events, hr⟩
        obtain ⟨os, hos, hseg⟩ :=
          ih (i + 1) (j - i - 1) later hi' hcs (by omega) hlater hstarts.tail
        rw [show i + 1 + (j - i - 1) = j by omega] at hos hseg
        refine ⟨_ :: os, .next (Nat.le_refl _) hij hj hr (fun k hk hk' => by omega) hos, ?_⟩
        rw [segment_found hrest hij hj hr, hseg]
        simp [Segmentation.ofOccurrences, Occurrence.ofRoute]

/-- A text is cut at the leftmost matches of a pattern, if none of its matches is empty. -/
theorem Expr.segments_leftmost (e : Expr) (groups : Nat) (text : List Char)
    (hempty : ∀ k, k ≤ text.length → ¬ e.EmptyAt text k) :
    ∃ os, LeftmostFrom e groups text 0 os ∧
      e.segments groups text = .ofOccurrences text 0 os := by
  refine segment_leftmost groups hempty text 0 0 (e.starts text) (Nat.zero_add _)
    List.drop_zero (Nat.zero_le _) (e.length_starts text) fun k found hk => ?_
  rw [Nat.zero_add]
  exact e.starts_answers text hk

end QueryFunctions.Pattern
