import QueryFunctions.Pattern.Marked

/-! A text cut by the matches of a pattern. Matches are taken from left to right: the first
one starts as early as possible, and each later one starts at or after the end of the one
before. Between them, before the first and after the last lie the gaps. -/

namespace QueryFunctions.Pattern

/-- A match: its text and the text of every group that took part in it. -/
structure Match where
  text : List Char
  groups : List (Option (List Char))
  deriving DecidableEq, Repr

/-- The text of a group; group 0 is the whole match. -/
def Match.group (m : Match) (index : Nat) : List Char :=
  match index with
  | 0 => m.text
  | n + 1 => ((m.groups[n]?).getD none).getD []

/-- A text in pieces: the first gap, and every match with the gap after it. -/
structure Segmentation where
  first : List Char
  rest : List (Match × List Char)
  deriving DecidableEq, Repr

namespace Segmentation

def gaps (s : Segmentation) : List (List Char) := s.first :: s.rest.map (·.2)

/-- The text with `expand m` in the place of every match `m`. -/
def replace (s : Segmentation) (expand : Match → List Char) : List Char :=
  s.first ++ s.rest.flatMap fun (m, gap) => expand m ++ gap

def cons (c : Char) (s : Segmentation) : Segmentation := { s with first := c :: s.first }

end Segmentation

/-- The place where a group last opened or closed on a trail. -/
def Trail.last? (trail : Trail) (group : Nat) (opens : Bool) : Option Nat :=
  (trail.events.filter fun e => e.group = group && e.opens = opens).getLast?.map (·.left)

/-- The match that a trail describes, at the start of `text`, which has `left` characters.
The pattern has groups up to the number `groups`. -/
def Trail.toMatch (trail : Trail) (groups left : Nat) (text : List Char) : Match :=
  let textOf (group : Nat) : Option (List Char) := do
    let start ← trail.last? group true
    let stop ← trail.last? group false
    some ((text.drop (left - start)).take (start - stop))
  ⟨text.take (left - trail.stop), (List.range groups).map fun n => textOf (n + 1)⟩

/-- Cuts a text of `left` characters, given the best match at each of its places. The first
`skip` characters belong to a match that has been taken. Matches without characters are not
taken. -/
def segment (groups : Nat) : Nat → Nat → List Char → List (Option Trail) → Segmentation
  | left, skip + 1, _ :: cs, _ :: starts => segment groups (left - 1) skip cs starts
  | left, 0, c :: cs, some trail :: starts =>
    match left - trail.stop with
    | 0 => (segment groups (left - 1) 0 cs starts).cons c
    | size + 1 =>
      let later := segment groups (left - 1) size cs starts
      ⟨[], (trail.toMatch groups left (c :: cs), later.first) :: later.rest⟩
  | left, 0, c :: cs, none :: starts => (segment groups (left - 1) 0 cs starts).cons c
  | _, _, cs, _ => ⟨cs, []⟩

/-- Cuts a text by the matches of a pattern with the given number of groups. -/
def Expr.segments (e : Expr) (groups : Nat) (text : List Char) : Segmentation :=
  segment groups text.length 0 text (e.starts text)

end QueryFunctions.Pattern
