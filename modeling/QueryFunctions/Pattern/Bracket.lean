import QueryFunctions.Pattern.Escape

/-! Sets in brackets. They nest, hold ranges, escapes and named ASCII classes, and are
combined by operators of one precedence from left to right. The open brackets and the
operators that wait for their right side are kept on a stack. -/

namespace QueryFunctions.Pattern

/-! ### Named ASCII classes -/

/-- The sets of the named classes, as ranges. -/
def posixRanges : List (String × List (Nat × Nat)) := [
  ("alnum", [(48, 57), (65, 90), (97, 122)]), ("alpha", [(65, 90), (97, 122)]),
  ("ascii", [(0, 127)]), ("blank", [(9, 9), (32, 32)]), ("cntrl", [(0, 31), (127, 127)]),
  ("digit", [(48, 57)]), ("graph", [(33, 126)]), ("lower", [(97, 122)]), ("print", [(32, 126)]),
  ("punct", [(33, 47), (58, 64), (91, 96), (123, 126)]), ("space", [(9, 13), (32, 32)]),
  ("upper", [(65, 90)]), ("word", [(48, 57), (65, 90), (95, 95), (97, 122)]),
  ("xdigit", [(48, 57), (65, 70), (97, 102)])]

def posixSet? (name : String) : Option CodeSet :=
  (posixRanges.lookup name).map fun ranges =>
    .unions (ranges.map fun (lo, hi) => .ofRange lo hi)

/-- Reads a named class from its bracket on. Anything else in this form is no error, but a
nested set. -/
def readPosix? (c : Cursor) : Option (SetItem × Cursor) :=
  match c.rest with
  | '[' :: ':' :: body =>
    let negated := body.head? == some '^'
    let body := if negated then body.drop 1 else body
    let name := body.takeWhile (· != ':')
    match body.drop name.length with
    | ':' :: ']' :: rest =>
      (posixSet? (String.ofList name)).map fun set =>
        (.posix ⟨c.left, rest.length⟩ negated set, ⟨rest.length, rest⟩)
    | _ => none
  | _ => none

/-! ### Items side by side -/

/-- The items read so far between two operators, last first, with their common stretch. -/
structure Pool where
  span : Span
  items : List SetItem

namespace Pool

def start (place : Nat) : Pool := ⟨.point place, []⟩

def push (pool : Pool) (item : SetItem) : Pool :=
  let start := if pool.items.isEmpty then item.span.start else pool.span.start
  ⟨⟨start, item.span.stop⟩, item :: pool.items⟩

def item (pool : Pool) : SetItem :=
  match pool.items with
  | [] => .nothing pool.span
  | [item] => item
  | items => .union pool.span items.reverse

end Pool

/-- What waits on the stack: an open bracket with the pool around it, or an operator with
its left side. -/
inductive SetFrame where
  | opened (outer : Pool) (span : Span) (negated : Bool)
  | operator (op : SetOp) (lhs : SetItem)

/-- Gives the operator on top of the stack, if there is one, its right side. -/
def closeOperator (stack : List SetFrame) (rhs : SetItem) : SetItem × List SetFrame :=
  match stack with
  | .operator op lhs :: stack =>
    (.binary ⟨lhs.span.start, rhs.span.stop⟩ op lhs rhs, stack)
  | stack => (rhs, stack)

/-- The refusal for a pattern that ends within brackets: the innermost one is to blame. -/
def refuseUnclosed {α : Type} : List SetFrame → Except Fault α
  | [] => refuse .bracketUnclosed (.point 0)
  | .opened _ span _ :: _ => refuse .bracketUnclosed span
  | .operator .. :: stack => refuseUnclosed stack

/-! ### Openings -/

/-- Takes hyphens that follow an opening, which stand for themselves. The fuel bounds their
number. -/
def takeHyphens (verbose : Bool) (start : Nat) :
    Nat → Pool → Cursor → Except Fault (Pool × Cursor)
  | fuel + 1, pool, c =>
    match c.rest with
    | '-' :: _ =>
      let after := c.advance verbose
      if after.atEnd then refuse .bracketUnclosed (.point start)
      else takeHyphens verbose start fuel (pool.push (.literal ⟨c.charSpan, '-', false⟩)) after
    | _ => .ok (pool, c)
  | 0, pool, c => .ok (pool, c)

/-- Steps on within an opening that must not end the pattern. -/
def stepIntoBracket (verbose : Bool) (start : Nat) (c : Cursor) : Except Fault Cursor :=
  let after := c.advance verbose
  if after.atEnd then refuse .bracketUnclosed ⟨start, after.left⟩ else .ok after

/-- Reads an opening bracket with what belongs to it: a negation, hyphens, and a closing
bracket that comes first and so stands for itself. -/
def readOpening (verbose : Bool) (outer : Pool) (c : Cursor) :
    Except Fault (SetFrame × Pool × Cursor) := do
  let start := c.left
  let first ← stepIntoBracket verbose start c
  let negated := first.rest.head? == some '^'
  let first ← if negated then stepIntoBracket verbose start first else .ok first
  let (pool, next) ← takeHyphens verbose start first.left (.start first.left) first
  if pool.items.isEmpty && next.rest.head? = some ']' then
    let after ← stepIntoBracket verbose start next
    let pool := pool.push (.literal ⟨next.charSpan, ']', false⟩)
    .ok (.opened outer ⟨start, after.left⟩ negated, pool, after)
  else .ok (.opened outer ⟨start, next.left⟩ negated, pool, next)

/-! ### Ranges -/

def readRangeEnd (verbose : Bool) (c : Cursor) : Except Fault (Primitive × Cursor) :=
  match c.rest with
  | '\\' :: _ => readEscape verbose c
  | char :: _ => .ok (.literal ⟨c.charSpan, char, false⟩, c.next)
  | [] => refuse .bracketUnclosed c.here

/-- The primitive as an item. Anchors have no place within brackets. -/
def Primitive.item : Primitive → Except Fault SetItem
  | .literal lit => .ok (.literal lit)
  | .property span negated query => .ok (.property span negated query)
  | .short span negated kind => .ok (.short span negated kind)
  | .anchor span _ => refuse .escapeInBracket span

/-- The primitive as an end of a range. -/
def Primitive.rangeEnd : Primitive → Except Fault Literal
  | .literal lit => .ok lit
  | primitive => refuse .rangeNotLiteral primitive.span

/-- Reads a single character, an escape, or a range. A hyphen before a closing bracket or
before another hyphen makes no range. -/
def readRange (verbose : Bool) (stack : List SetFrame) (c : Cursor) :
    Except Fault (SetItem × Cursor) := do
  let (first, c) ← readRangeEnd verbose c
  let c := c.skip verbose
  match c.rest with
  | [] => refuseUnclosed stack
  | '-' :: _ =>
    let ahead := c.peek verbose
    if ahead = some ']' || ahead = some '-' then .ok (← first.item, c)
    else
      let c := c.advance verbose
      if c.atEnd then refuseUnclosed stack
      let (last, after) ← readRangeEnd verbose c
      let span : Span := ⟨first.span.start, last.span.stop⟩
      let first ← first.rangeEnd
      let last ← last.rangeEnd
      if last.char < first.char then refuse .rangeReversed span
      else .ok (.range span first last, after)
  | _ => .ok (← first.item, c)

/-! ### Sets -/

def setOp? : List Char → Option SetOp
  | '&' :: '&' :: _ => some .inter
  | '-' :: '-' :: _ => some .diff
  | '~' :: '~' :: _ => some .symmDiff
  | _ => none

/-- A complete set in brackets: its stretch, whether it is negated, and its body. -/
structure Bracket where
  span : Span
  negated : Bool
  body : SetItem

/-- Reads on within brackets until the outermost one closes. The fuel bounds the number of
parts. -/
def readBracketFrom (verbose : Bool) :
    Nat → List SetFrame → Pool → Cursor → Except Fault (Bracket × Cursor)
  | 0, stack, _, _ => refuseUnclosed stack
  | fuel + 1, stack, pool, c => do
    let c := c.skip verbose
    match c.rest with
    | [] => refuseUnclosed stack
    | '[' :: _ =>
      match readPosix? c with
      | some (item, after) => readBracketFrom verbose fuel stack (pool.push item) after
      | none =>
        let (frame, inner, after) ← readOpening verbose pool c
        readBracketFrom verbose fuel (frame :: stack) inner after
    | ']' :: _ =>
      match closeOperator stack pool.item with
      | (body, .opened outer span negated :: below) =>
        let span : Span := ⟨span.start, c.next.left⟩
        if below.isEmpty then .ok (⟨span, negated, body⟩, c.next)
        else
          readBracketFrom verbose fuel below (outer.push (.bracketed span negated body)) c.next
      | _ => refuseUnclosed stack
    | _ =>
      match setOp? c.rest with
      | some op =>
        let (lhs, stack) := closeOperator stack pool.item
        let after := c.drop 2
        readBracketFrom verbose fuel (.operator op lhs :: stack) (.start after.left) after
      | none =>
        let (item, after) ← readRange verbose stack c
        readBracketFrom verbose fuel stack (pool.push item) after

def readBracket (verbose : Bool) (c : Cursor) : Except Fault (Bracket × Cursor) := do
  let (frame, pool, after) ← readOpening verbose (.start c.left) c
  readBracketFrom verbose (after.left + 1) [frame] pool after

end QueryFunctions.Pattern
