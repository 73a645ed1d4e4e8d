import QueryFunctions.Pattern.Place

/-! Matching. A text is read once, from its end to its start. Every character of the pattern
carries a mark, which says how the best match goes on once that character has been read at
the current place; from the marks of one place those of the place before it are found in a
walk over the pattern. So each place learns the best match that starts there, at a cost that
does not depend on the length of the matches.

Matches are ranked as a backtracking search would find them: earlier branches of a choice go
first, a greedy repetition prefers more and a lazy one fewer. Within one place a search
passes each point of the pattern at most once, which is what ends empty repetitions. -/

namespace QueryFunctions.Pattern

/-- A group that opens or closes where `left` characters follow. -/
structure GroupEvent where
  group : Nat
  opens : Bool
  left : Nat
  deriving DecidableEq, Repr

/-- The rest of a match: what opens and closes on the way, and where the match stops. -/
structure Trail where
  events : List GroupEvent
  stop : Nat
  deriving DecidableEq, Repr

def Trail.record (event : GroupEvent) (trail : Trail) : Trail :=
  { trail with events := event :: trail.events }

/-- A pattern with marks. A `star` has a body that does not match the empty text. -/
inductive Marked where
  | empty
  | char (test : Char → Bool) (mark : Option Trail)
  | look (look : Look)
  | seq (first second : Marked)
  | alt (first second : Marked)
  | opt (greedy : Bool) (body : Marked)
  | star (greedy : Bool) (body : Marked)
  | plus (greedy : Bool) (body : Marked)
  | group (index : Nat) (body : Marked)

namespace Marked

/-! ### From expressions -/

/-- A pattern as often as given, one copy after another. -/
def copies (body : Marked) : Nat → Marked
  | 0 => empty
  | 1 => body
  | n + 2 => seq body (copies body (n + 1))

/-- A pattern at most as often as given. -/
def upTo (greedy : Bool) (body : Marked) : Nat → Marked
  | 0 => empty
  | 1 => opt greedy body
  | n + 2 => opt greedy (seq body (upTo greedy body (n + 1)))

/-- A repetition in terms of single copies and loops. -/
def times (min : Nat) (max : Option Nat) (greedy solid : Bool) (body : Marked) : Marked :=
  match min, max with
  | min, some max => if min = max then copies body min
    else if min = 0 then upTo greedy body max
    else seq (copies body min) (upTo greedy body (max - min))
  | 0, none => if solid then star greedy body else opt greedy (plus greedy body)
  | 1, none => plus greedy body
  | n + 2, none => seq (copies body (n + 1)) (plus greedy body)

def ofText : List Char → Marked
  | [] => empty
  | [c] => char (· == c) none
  | c :: cs => seq (char (· == c) none) (ofText cs)

def ofSet (set : CodeSet) : Marked :=
  let inside := set.index
  char (fun c => inside.find c.toNat) none

mutual

/-- The pattern of an expression, without marks. -/
def ofExpr : Expr → Marked
  | .empty => empty
  | .literal text => ofText text
  | .chars set => ofSet set
  | .look condition => look condition
  | .repeated min max greedy body =>
    times min max greedy (body.minLength.any (0 < ·)) (ofExpr body)
  | .group index _ body => group index (ofExpr body)
  | .row items => ofRow items
  | .choice branches => ofChoice branches

def ofRow : List Expr → Marked
  | [] => empty
  | [e] => ofExpr e
  | e :: es => seq (ofExpr e) (ofRow es)

def ofChoice : List Expr → Marked
  | [] => char (fun _ => false) none
  | [e] => ofExpr e
  | e :: es => alt (ofExpr e) (ofChoice es)

end

/-! ### Reading -/

/-- The first success of two, in the order that greed asks for. -/
def prefer (greedy : Bool) (more fewer : Thunk (Option Trail)) : Option Trail :=
  if greedy then more.get.orElse fun _ => fewer.get else fewer.get.orElse fun _ => more.get

/-- The best way through a pattern from its start, at a place. `exit` is the best way on from
the end of the pattern at the same place. -/
def enter (place : Place) : Marked → Thunk (Option Trail) → Option Trail
  | empty, exit => exit.get
  | char _ mark, _ => mark
  | look condition, exit =>
    if condition.holds place.before place.after then exit.get else none
  | seq first second, exit => first.enter place ⟨fun _ => second.enter place exit⟩
  | alt first second, exit => (first.enter place exit).orElse fun _ => second.enter place exit
  | opt greedy body, exit => prefer greedy ⟨fun _ => body.enter place exit⟩ exit
  | star greedy body, exit => prefer greedy ⟨fun _ => body.enter place ⟨fun _ => none⟩⟩ exit
  | plus _ body, exit => body.enter place exit
  | group index body, exit =>
    let closed : Thunk (Option Trail) :=
      ⟨fun _ => exit.get.map (.record ⟨index, false, place.left⟩)⟩
    (body.enter place closed).map (.record ⟨index, true, place.left⟩)

/-- Moves the marks one place to the left. `leave` tells the best way on from the end of the
pattern; its argument is the best way from the start of the pattern back to the character
that has just been read, which is the way that a loop around the pattern takes. -/
def retreat (place : Place) : Marked → (Thunk (Option Trail) → Option Trail) → Marked
  | empty, _ => empty
  | char test mark, leave =>
    char test (if place.before.any test then leave ⟨fun _ => mark⟩ else none)
  | look condition, _ => look condition
  | seq first second, leave =>
    seq (first.retreat place fun back => second.enter place ⟨fun _ => leave back⟩)
      (second.retreat place fun back => leave ⟨fun _ => first.enter place back⟩)
  | alt first second, leave =>
    let none : Thunk (Option Trail) := ⟨fun _ => none⟩
    alt
      (first.retreat place fun back =>
        leave ⟨fun _ => back.get.orElse fun _ => second.enter place none⟩)
      (second.retreat place fun back =>
        leave ⟨fun _ => (first.enter place none).orElse fun _ => back.get⟩)
  | opt greedy body, leave => opt greedy (body.retreat place leave)
  | star greedy body, leave =>
    star greedy (body.retreat place fun back =>
      prefer greedy back ⟨fun _ => leave ⟨fun _ => none⟩⟩)
  | plus greedy body, leave =>
    plus greedy (body.retreat place fun back => prefer greedy back ⟨fun _ => leave back⟩)
  | group index body, leave =>
    group index (body.retreat place fun back =>
      (leave ⟨fun _ => back.get.map (.record ⟨index, true, place.left⟩)⟩).map
        (.record ⟨index, false, place.left⟩))

/-- What is known at a place of a text: the number of characters after it, the best match
that starts there and at every later place, and the pattern with its marks. -/
structure Reading where
  left : Nat
  starts : List (Option Trail)
  pattern : Marked

/-- Arrives at a place from the one after it. -/
def arrive (place : Place) (starts : List (Option Trail)) (pattern : Marked) : Reading :=
  let stop : Option Trail := some ⟨[], place.left⟩
  ⟨place.left, pattern.enter place ⟨fun _ => stop⟩ :: starts,
    pattern.retreat place fun _ => stop⟩

/-- Reads a text, which `before` comes before, back to its start. -/
def read (pattern : Marked) (before : Option Char) : List Char → Reading
  | [] => arrive ⟨before, none, 0⟩ [] pattern
  | c :: cs =>
    let later := read pattern (some c) cs
    arrive ⟨before, some c, later.left + 1⟩ later.starts later.pattern

end Marked

/-- For every place of a text, the best match that starts there. -/
def Expr.starts (e : Expr) (text : List Char) : List (Option Trail) :=
  ((Marked.ofExpr e).read none text).starts

end QueryFunctions.Pattern
