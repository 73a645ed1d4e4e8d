import QueryFunctions.Pattern.Fault
import QueryFunctions.Unicode.Property

/-! The structure of a pattern as it is written. Every construct keeps its stretch of the
pattern and the modes in force where it stands, so its meaning needs no context. -/

namespace QueryFunctions.Pattern

open Unicode (PropertyQuery)

/-- The modes that flags switch. `byChar` is on unless a pattern turns to single bytes. -/
structure Modes where
  ignoreCase : Bool := false
  multiLine : Bool := false
  dotAll : Bool := false
  swapGreed : Bool := false
  byChar : Bool := true
  carriageReturn : Bool := false
  verbose : Bool := false
  deriving DecidableEq, Repr

/-- The six inner edges of words. The half edges look at one side only. -/
inductive WordEdge where
  | either
  | neither
  | start
  | stop
  | startHalf
  | stopHalf
  deriving DecidableEq, Repr

/-- A condition on a place between two characters, as it is written. -/
inductive Anchor where
  | lineStart
  | lineEnd
  | textStart
  | textEnd
  | word (edge : WordEdge)
  deriving DecidableEq, Repr

inductive ShortClass where
  | digit
  | space
  | word
  deriving DecidableEq, Repr

/-- A single character. `isByte` tells the two digit form `\x7F`, which in byte mode stands
for a byte. -/
structure Literal where
  span : Span
  char : Char
  isByte : Bool := false
  deriving DecidableEq, Repr

inductive SetOp where
  | inter
  | diff
  | symmDiff
  deriving DecidableEq, Repr

inductive SetItem where
  | nothing (span : Span)
  | literal (lit : Literal)
  | range (span : Span) (first last : Literal)
  | posix (span : Span) (negated : Bool) (set : CodeSet)
  | property (span : Span) (negated : Bool) (query : PropertyQuery)
  | short (span : Span) (negated : Bool) (kind : ShortClass)
  | bracketed (span : Span) (negated : Bool) (body : SetItem)
  | union (span : Span) (items : List SetItem)
  | binary (span : Span) (op : SetOp) (lhs rhs : SetItem)

def SetItem.span : SetItem → Span
  | nothing span => span
  | literal lit => lit.span
  | range span _ _ => span
  | posix span _ _ => span
  | property span _ _ => span
  | short span _ _ => span
  | bracketed span _ _ => span
  | union span _ => span
  | binary span _ _ _ => span

/-- The number of a group, counted by opening parentheses, and its name. -/
structure GroupLabel where
  index : Nat
  name : Option String
  deriving DecidableEq, Repr

/-- A construct of a pattern. -/
inductive Node where
  | nothing (span : Span)
  | flags (span : Span)
  | literal (modes : Modes) (lit : Literal)
  | dot (modes : Modes) (span : Span)
  | anchor (modes : Modes) (span : Span) (place : Anchor)
  | property (modes : Modes) (span : Span) (negated : Bool) (query : PropertyQuery)
  | short (modes : Modes) (span : Span) (negated : Bool) (kind : ShortClass)
  | bracketed (modes : Modes) (span : Span) (negated : Bool) (body : SetItem)
  | repeated (span : Span) (min : Nat) (max : Option Nat) (greedy : Bool) (body : Node)
  | group (span : Span) (label : Option GroupLabel) (body : Node)
  | sequence (span : Span) (items : List Node)
  | choice (span : Span) (branches : List Node)

def Node.span : Node → Span
  | nothing span => span
  | flags span => span
  | literal _ lit => lit.span
  | dot _ span => span
  | anchor _ span _ => span
  | property _ span _ _ => span
  | short _ span _ _ => span
  | bracketed _ span _ _ => span
  | repeated span _ _ _ _ => span
  | group span _ _ => span
  | sequence span _ => span
  | choice span _ => span

/-! ### Depth -/

/-- The stretch of an item that enters one more level. -/
def SetItem.enter (span : Span) (inner : Nat → Option Span) : Nat → Option Span
  | 0 => some span
  | room + 1 => inner room

mutual

/-- The first item, from the outside in and left to right, that needs a level more than
there is room for. -/
def SetItem.tooDeep : SetItem → Nat → Option Span
  | .bracketed span _ body, room => SetItem.enter span body.tooDeep room
  | .union span items, room => SetItem.enter span (SetItem.anyTooDeep items) room
  | .binary span _ lhs rhs, room =>
    SetItem.enter span (fun room => (lhs.tooDeep room).orElse fun _ => rhs.tooDeep room) room
  | _, _ => none

def SetItem.anyTooDeep : List SetItem → Nat → Option Span
  | [], _ => none
  | item :: items, room =>
    (item.tooDeep room).orElse fun _ => SetItem.anyTooDeep items room

end

mutual

/-- The first construct, from the outside in and left to right, that needs a level more than
there is room for. -/
def Node.tooDeep : Node → Nat → Option Span
  | .bracketed _ span _ body, room => SetItem.enter span body.tooDeep room
  | .repeated span _ _ _ body, room => SetItem.enter span body.tooDeep room
  | .group span _ body, room => SetItem.enter span body.tooDeep room
  | .sequence span items, room => SetItem.enter span (Node.anyTooDeep items) room
  | .choice span branches, room => SetItem.enter span (Node.anyTooDeep branches) room
  | _, _ => none

def Node.anyTooDeep : List Node → Nat → Option Span
  | [], _ => none
  | node :: nodes, room => (node.tooDeep room).orElse fun _ => Node.anyTooDeep nodes room

end

def nestingLimit : Nat := 250

end QueryFunctions.Pattern
