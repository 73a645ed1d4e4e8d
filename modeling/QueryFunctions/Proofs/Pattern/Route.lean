import Mathlib.Data.List.Basic
import Mathlib.Data.Nat.Basic
import Mathlib.Order.Lattice
import QueryFunctions.Pattern.Marked

/-! What patterns match, said without a search. A route leads from one place of a text to
another and records the groups that open and close on the way; the routes of a pattern are
those of its parts put together. Places are counted from the start of the text, and the
records keep to the number of characters that are left. Which of several routes a search
prefers is not said here. The main statement is that a pattern and its form with marks have
the same routes. -/

namespace QueryFunctions.Pattern

/-- Routes from a place to a place, with the group events on the way. -/
def Route := Nat → Nat → List GroupEvent → Prop

namespace Route

/-- The empty route, at the places where a condition holds. -/
def stay (holds : Nat → Prop) : Route := fun i j events => i = j ∧ holds i ∧ events = []

/-- The route over one character that passes a test. -/
def step (text : List Char) (test : Char → Bool) : Route := fun i j events =>
  (∃ c, text[i]? = some c ∧ test c = true) ∧ j = i + 1 ∧ events = []

/-- The route over a given text. -/
def along (text part : List Char) : Route := fun i j events =>
  part <+: text.drop i ∧ j = i + part.length ∧ events = []

def andThen (r s : Route) : Route := fun i j events =>
  ∃ k first second, r i k first ∧ s k j second ∧ events = first ++ second

def either (r s : Route) : Route := fun i j events => r i j events ∨ s i j events

/-- A number of routes of one kind. -/
def copies (r : Route) : Nat → Route
  | 0 => stay fun _ => True
  | n + 1 => r.andThen (copies r n)

/-- Any number of routes of one kind. -/
def loop (r : Route) : Route := fun i j events => ∃ n, r.copies n i j events

/-- At most a number of routes of one kind. -/
def upTo (r : Route) (n : Nat) : Route := fun i j events => ∃ k, k ≤ n ∧ r.copies k i j events

/-- As many routes of one kind as a repetition allows. -/
def repeated (min : Nat) (max : Option Nat) (r : Route) : Route := fun i j events =>
  ∃ n, min ≤ n ∧ (∀ most ∈ max, n ≤ Max.max min most) ∧ r.copies n i j events

/-- A route that a group opens before and closes after. -/
def grouped (size index : Nat) (r : Route) : Route := fun i j events =>
  ∃ inner, r i j inner ∧
    events = ⟨index, true, size - i⟩ :: (inner ++ [⟨index, false, size - j⟩])

@[ext] theorem ext {r s : Route} (h : ∀ i j events, r i j events ↔ s i j events) : r = s := by
  funext i j events
  exact propext (h i j events)

theorem stay_andThen (r : Route) : (stay fun _ => True).andThen r = r := by
  ext i j events
  constructor
  · rintro ⟨k, first, second, ⟨rfl, -, rfl⟩, hr, rfl⟩
    exact hr
  · intro hr
    exact ⟨i, [], events, ⟨rfl, trivial, rfl⟩, hr, rfl⟩

theorem andThen_stay (r : Route) : r.andThen (stay fun _ => True) = r := by
  ext i j events
  constructor
  · rintro ⟨k, first, second, hr, ⟨rfl, -, rfl⟩, rfl⟩
    simpa using hr
  · intro hr
    exact ⟨j, events, [], hr, ⟨rfl, trivial, rfl⟩, by simp⟩

theorem andThen_assoc (r s t : Route) : (r.andThen s).andThen t = r.andThen (s.andThen t) := by
  ext i j events
  constructor
  · rintro ⟨k, _, third, ⟨l, first, second, hr, hs, rfl⟩, ht, rfl⟩
    exact ⟨l, first, second ++ third, hr, ⟨k, second, third, hs, ht, rfl⟩, by simp⟩
  · rintro ⟨k, first, _, hr, ⟨l, second, third, hs, ht, rfl⟩, rfl⟩
    exact ⟨l, first ++ second, third, ⟨k, first, second, hr, hs, rfl⟩, ht, by simp⟩

theorem copies_one (r : Route) : r.copies 1 = r := andThen_stay r

theorem copies_add (r : Route) (m n : Nat) :
    r.copies (m + n) = (r.copies m).andThen (r.copies n) := by
  induction m with
  | zero => rw [Nat.zero_add]; exact (stay_andThen _).symm
  | succ m ih =>
    rw [Nat.succ_add]
    change r.andThen (r.copies (m + n)) = _
    rw [ih, ← andThen_assoc]
    rfl

theorem upTo_zero (r : Route) : r.upTo 0 = stay fun _ => True := by
  ext i j events
  constructor
  · rintro ⟨k, hk, h⟩
    obtain rfl : k = 0 := by omega
    exact h
  · intro h
    exact ⟨0, Nat.le_refl 0, h⟩

theorem upTo_succ (r : Route) (n : Nat) :
    r.upTo (n + 1) = (r.andThen (r.upTo n)).either (stay fun _ => True) := by
  ext i j events
  constructor
  · rintro ⟨k, hk, h⟩
    cases k with
    | zero => exact .inr h
    | succ k =>
      obtain ⟨l, first, second, h₁, h₂, rfl⟩ := h
      exact .inl ⟨l, first, second, h₁, ⟨k, by omega, h₂⟩, rfl⟩
  · rintro (⟨l, first, second, h₁, ⟨k, hk, h₂⟩, rfl⟩ | h)
    · exact ⟨k + 1, by omega, l, first, second, h₁, h₂, rfl⟩
    · exact ⟨0, Nat.zero_le _, h⟩

theorem loop_eq (r : Route) : (r.andThen r.loop).either (stay fun _ => True) = r.loop := by
  ext i j events
  constructor
  · rintro (⟨k, first, second, h₁, ⟨n, h₂⟩, rfl⟩ | h)
    · exact ⟨n + 1, k, first, second, h₁, h₂, rfl⟩
    · exact ⟨0, h⟩
  · rintro ⟨n, h⟩
    cases n with
    | zero => exact .inr h
    | succ n =>
      obtain ⟨k, first, second, h₁, h₂, rfl⟩ := h
      exact .inl ⟨k, first, second, h₁, ⟨n, h₂⟩, rfl⟩

/-- A repetition makes the copies that it must and goes on with any number of them. -/
theorem repeated_none (r : Route) (min : Nat) :
    r.repeated min none = (r.copies min).andThen r.loop := by
  ext i j events
  constructor
  · rintro ⟨n, hmin, -, h⟩
    obtain ⟨m, rfl⟩ := Nat.exists_eq_add_of_le hmin
    rw [copies_add] at h
    obtain ⟨k, first, second, h₁, h₂, rfl⟩ := h
    exact ⟨k, first, second, h₁, ⟨m, h₂⟩, rfl⟩
  · rintro ⟨k, first, second, h₁, ⟨m, h₂⟩, rfl⟩
    refine ⟨min + m, Nat.le_add_right _ _, by simp, ?_⟩
    rw [copies_add]
    exact ⟨k, first, second, h₁, h₂, rfl⟩

/-- A repetition with a bound makes the copies that it must and goes on with as many as it
may. -/
theorem repeated_some (r : Route) (min max : Nat) :
    r.repeated min (some max) = (r.copies min).andThen (r.upTo (max - min)) := by
  ext i j events
  constructor
  · rintro ⟨n, hmin, hmax, h⟩
    have hle := hmax max rfl
    obtain ⟨m, rfl⟩ := Nat.exists_eq_add_of_le hmin
    rw [copies_add] at h
    obtain ⟨k, first, second, h₁, h₂, rfl⟩ := h
    exact ⟨k, first, second, h₁, ⟨m, by omega, h₂⟩, rfl⟩
  · rintro ⟨k, first, second, h₁, ⟨m, hm, h₂⟩, rfl⟩
    refine ⟨min + m, Nat.le_add_right _ _, by simp; omega, ?_⟩
    rw [copies_add]
    exact ⟨k, first, second, h₁, h₂, rfl⟩

end Route

/-! ### Routes of patterns -/

def before? (text : List Char) : Nat → Option Char
  | 0 => none
  | i + 1 => text[i]?

def placeAt (text : List Char) (i : Nat) : Place := ⟨before? text i, text[i]?, text.length - i⟩

/-- The empty route at the places that meet a condition. -/
def Look.route (text : List Char) (condition : Look) : Route :=
  .stay fun i => condition.holds (before? text i) text[i]? = true

mutual

/-- The routes of a pattern through a text. -/
def Expr.route (text : List Char) : Expr → Route
  | .empty => .stay fun _ => True
  | .literal part => .along text part
  | .chars set => .step text fun c => set.index.find c.toNat
  | .look condition => condition.route text
  | .repeated min max _ body => (body.route text).repeated min max
  | .group index _ body => (body.route text).grouped text.length index
  | .row items => Expr.rowRoute text items
  | .choice branches => Expr.choiceRoute text branches

def Expr.rowRoute (text : List Char) : List Expr → Route
  | [] => .stay fun _ => True
  | e :: es => (e.route text).andThen (Expr.rowRoute text es)

def Expr.choiceRoute (text : List Char) : List Expr → Route
  | [] => fun _ _ _ => False
  | e :: es => (e.route text).either (Expr.choiceRoute text es)

end

/-- The routes of a pattern with marks, which do not depend on the marks. -/
def Marked.route (text : List Char) : Marked → Route
  | .empty => .stay fun _ => True
  | .char test _ => .step text test
  | .look condition => condition.route text
  | .seq first second => (first.route text).andThen (second.route text)
  | .alt first second => (first.route text).either (second.route text)
  | .opt _ body => (body.route text).either (.stay fun _ => True)
  | .star _ body => (body.route text).loop
  | .plus _ body => (body.route text).andThen (body.route text).loop
  | .group index body => (body.route text).grouped text.length index

/-- A pattern matches the empty text at a place. -/
def Expr.EmptyAt (e : Expr) (text : List Char) (i : Nat) : Prop := ∃ events, e.route text i i events

namespace Marked

variable {text : List Char}

/-! ### What holds along routes -/

/-- What holds of empty routes and of single characters, and is kept when routes are put
together and when groups are put around them, holds along every route of a pattern. -/
theorem route_rec {P : Nat → Nat → List GroupEvent → Prop} (hstay : ∀ i, P i i [])
    (hstep : ∀ i, i < text.length → P i (i + 1) [])
    (happend : ∀ i k j first second, P i k first → P k j second → P i j (first ++ second))
    (hgroup : ∀ index i j inner, P i j inner →
      P i j (⟨index, true, text.length - i⟩ :: (inner ++ [⟨index, false, text.length - j⟩])))
    (m : Marked) {i j : Nat} {events : List GroupEvent} (h : m.route text i j events) :
    P i j events := by
  have hcopies (r : Route) (hr : ∀ i j events, r i j events → P i j events) (n : Nat) :
      ∀ i j events, r.copies n i j events → P i j events := by
    induction n with
    | zero => rintro i j events ⟨rfl, -, rfl⟩; exact hstay i
    | succ n ih =>
      rintro i j events ⟨k, first, second, h₁, h₂, rfl⟩
      exact happend i k j first second (hr i k first h₁) (ih k j second h₂)
  induction m generalizing i j events with
  | empty => obtain ⟨rfl, -, rfl⟩ := h; exact hstay i
  | char test mark =>
    obtain ⟨⟨c, hc, -⟩, rfl, rfl⟩ := h
    exact hstep i (List.getElem?_eq_some_iff.mp hc).1
  | look condition => obtain ⟨rfl, -, rfl⟩ := h; exact hstay i
  | seq first second ih₁ ih₂ =>
    obtain ⟨k, events₁, events₂, h₁, h₂, rfl⟩ := h
    exact happend i k j events₁ events₂ (ih₁ h₁) (ih₂ h₂)
  | alt first second ih₁ ih₂ => exact h.elim ih₁ ih₂
  | opt greedy body ih =>
    rcases h with h | ⟨rfl, -, rfl⟩
    · exact ih h
    · exact hstay i
  | star greedy body ih =>
    obtain ⟨n, hn⟩ := h
    exact hcopies _ (fun _ _ _ => ih) n i j events hn
  | plus greedy body ih =>
    obtain ⟨k, events₁, events₂, h₁, ⟨n, hn⟩, rfl⟩ := h
    exact happend i k j events₁ events₂ (ih h₁) (hcopies _ (fun _ _ _ => ih) n k j events₂ hn)
  | group index body ih =>
    obtain ⟨inner, h, rfl⟩ := h
    exact hgroup index i j inner (ih h)

theorem route_le (m : Marked) {i j : Nat} {events : List GroupEvent}
    (h : m.route text i j events) : i ≤ j :=
  m.route_rec (P := fun i j _ => i ≤ j) (fun _ => Nat.le_refl _) (fun _ _ => Nat.le_succ _)
    (fun _ _ _ _ _ => Nat.le_trans) (fun _ _ _ _ h => h) h

/-! ### The routes of a pattern and of its form with marks -/

theorem route_copies (body : Marked) :
    ∀ n, (copies body n).route text = (body.route text).copies n
  | 0 => rfl
  | 1 => (Route.copies_one _).symm
  | n + 2 => by
    change (body.route text).andThen ((copies body (n + 1)).route text) = _
    rw [route_copies body (n + 1)]
    rfl

theorem route_upTo (greedy : Bool) (body : Marked) :
    ∀ n, (upTo greedy body n).route text = (body.route text).upTo n
  | 0 => (Route.upTo_zero _).symm
  | 1 => by
    rw [Route.upTo_succ, Route.upTo_zero, Route.andThen_stay]
    rfl
  | n + 2 => by
    rw [Route.upTo_succ, ← route_upTo greedy body (n + 1)]
    rfl

theorem route_times (min : Nat) (max : Option Nat) (greedy solid : Bool) (body : Marked) :
    (times min max greedy solid body).route text = (body.route text).repeated min max := by
  match min, max with
  | min, some max =>
    rw [Route.repeated_some]
    simp only [times]
    split_ifs with heq hzero
    · rw [route_copies, ← heq, Nat.sub_self, Route.upTo_zero, Route.andThen_stay]
    · rw [route_upTo, hzero]
      exact (Route.stay_andThen _).symm
    · rw [route, route_copies, route_upTo]
  | 0, none =>
    have hloop : (body.route text).repeated 0 none = (body.route text).loop :=
      (Route.repeated_none _ 0).trans (Route.stay_andThen _)
    rw [hloop]
    cases solid with
    | true => rfl
    | false => exact Route.loop_eq _
  | 1, none =>
    rw [Route.repeated_none, Route.copies_one]
    rfl
  | n + 2, none =>
    rw [Route.repeated_none, Route.copies_add _ (n + 1) 1, Route.copies_one, Route.andThen_assoc,
      ← route_copies]
    rfl

theorem route_ofText (part : List Char) : (ofText part).route text = .along text part := by
  induction part with
  | nil =>
    ext i j events
    simp [ofText, route, Route.stay, Route.along, eq_comm]
  | cons c cs ih =>
    have hstep : (Route.step text (· == c)).andThen (.along text cs) = .along text (c :: cs) := by
      ext i j events
      constructor
      · rintro ⟨k, first, second, ⟨⟨d, hd, hc⟩, rfl, rfl⟩, ⟨hp, rfl, rfl⟩, rfl⟩
        obtain rfl : d = c := by simpa using hc
        obtain ⟨hi, rfl⟩ := List.getElem?_eq_some_iff.mp hd
        refine ⟨?_, by simp; omega, rfl⟩
        rw [List.drop_eq_getElem_cons hi]
        exact List.cons_prefix_cons.mpr ⟨rfl, hp⟩
      · rintro ⟨hp, rfl, rfl⟩
        have hi : i < text.length := by
          by_contra hge
          rw [List.drop_eq_nil_of_le (by omega)] at hp
          simp at hp
        rw [List.drop_eq_getElem_cons hi, List.cons_prefix_cons] at hp
        obtain ⟨rfl, hp⟩ := hp
        exact ⟨i + 1, [], [], ⟨⟨_, List.getElem?_eq_getElem hi, by simp⟩, rfl, rfl⟩,
          ⟨hp, by simp; omega, rfl⟩, rfl⟩
    cases cs with
    | nil =>
      rw [← hstep, ← ih]
      exact (Route.andThen_stay _).symm
    | cons d ds =>
      change (Route.step text (· == c)).andThen ((ofText (d :: ds)).route text) = _
      rw [ih, hstep]

mutual

/-- A pattern and its form with marks have the same routes. -/
theorem route_ofExpr : ∀ e : Expr, (ofExpr e).route text = e.route text
  | .empty => rfl
  | .literal part => route_ofText part
  | .chars _ => rfl
  | .look _ => rfl
  | .repeated min max greedy body => by
    rw [ofExpr, route_times, route_ofExpr body, Expr.route]
  | .group index _ body => by
    rw [ofExpr, route, route_ofExpr body, Expr.route]
  | .row items => by rw [ofExpr, route_ofRow items, Expr.route]
  | .choice branches => by rw [ofExpr, route_ofChoice branches, Expr.route]

theorem route_ofRow : ∀ es : List Expr, (ofRow es).route text = Expr.rowRoute text es
  | [] => rfl
  | [e] => by
    rw [ofRow, route_ofExpr e, Expr.rowRoute, Expr.rowRoute, Route.andThen_stay]
  | e :: e' :: es => by
    rw [ofRow, route, route_ofExpr e, route_ofRow (e' :: es)]
    · rfl
    · simp

theorem route_ofChoice : ∀ es : List Expr, (ofChoice es).route text = Expr.choiceRoute text es
  | [] => by
    ext i j events
    simp [ofChoice, route, Route.step, Expr.choiceRoute]
  | [e] => by
    ext i j events
    simp [ofChoice, route_ofExpr e, Expr.choiceRoute, Route.either]
  | e :: e' :: es => by
    rw [ofChoice, route, route_ofExpr e, route_ofChoice (e' :: es)]
    · rfl
    · simp

end

end Marked

namespace Expr

variable {text : List Char} {e : Expr} {i j : Nat} {events : List GroupEvent}

theorem route_rec {P : Nat → Nat → List GroupEvent → Prop} (hstay : ∀ i, P i i [])
    (hstep : ∀ i, i < text.length → P i (i + 1) [])
    (happend : ∀ i k j first second, P i k first → P k j second → P i j (first ++ second))
    (hgroup : ∀ index i j inner, P i j inner →
      P i j (⟨index, true, text.length - i⟩ :: (inner ++ [⟨index, false, text.length - j⟩])))
    (h : e.route text i j events) : P i j events := by
  rw [← Marked.route_ofExpr] at h
  exact (Marked.ofExpr e).route_rec hstay hstep happend hgroup h

theorem route_le (h : e.route text i j events) : i ≤ j := by
  rw [← Marked.route_ofExpr] at h
  exact Marked.route_le _ h

theorem route_within (h : e.route text i j events) (hi : i ≤ text.length) : j ≤ text.length :=
  route_rec (P := fun i j _ => i ≤ text.length → j ≤ text.length) (fun _ h => h)
    (fun _ h _ => h) (fun _ _ _ _ _ h₁ h₂ h => h₂ (h₁ h)) (fun _ _ _ _ h => h) h hi

end Expr

end QueryFunctions.Pattern
