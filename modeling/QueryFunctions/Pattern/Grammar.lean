import QueryFunctions.Pattern.Bracket

/-! The grammar of patterns. A pattern is read from left to right in one pass; the groups
and choices that are still open are kept on a stack. Flags hold to the end of the group
that they stand in. -/

namespace QueryFunctions.Pattern

/-! ### Flags -/

inductive Flag where
  | ignoreCase
  | multiLine
  | dotAll
  | swapGreed
  | byChar
  | carriageReturn
  | verbose
  deriving DecidableEq, Repr

def flagNamed? (letter : Char) : Option Flag :=
  [('i', Flag.ignoreCase), ('m', .multiLine), ('s', .dotAll), ('U', .swapGreed), ('u', .byChar),
    ('R', .carriageReturn), ('x', .verbose)].lookup letter

def Modes.set (modes : Modes) (flag : Flag) (on : Bool) : Modes :=
  match flag with
  | .ignoreCase => { modes with ignoreCase := on }
  | .multiLine => { modes with multiLine := on }
  | .dotAll => { modes with dotAll := on }
  | .swapGreed => { modes with swapGreed := on }
  | .byChar => { modes with byChar := on }
  | .carriageReturn => { modes with carriageReturn := on }
  | .verbose => { modes with verbose := on }

/-- What has been read of a list of flags: the flags with their stretches, and the hyphen
that turns flags off, with the information whether it came last. -/
structure FlagList where
  modes : Modes
  seen : List (Flag × Span) := []
  hyphen : Option Span := none
  dangling : Bool := false

/-- Reads flags up to the colon or parenthesis that ends them. -/
def readFlags : FlagList → Nat → List Char → Except Fault (FlagList × Cursor)
  | _, left, [] => refuse .modesUnfinished (.point left)
  | flags, left, c :: cs =>
    let span : Span := ⟨left, left - 1⟩
    if c = ':' || c = ')' then
      match flags.dangling, flags.hyphen with
      | true, some hyphen => refuse .modesDangling hyphen
      | _, _ => .ok (flags, ⟨left, c :: cs⟩)
    else if c = '-' then
      match flags.hyphen with
      | some first => .error ⟨.negationRepeated, span, some first⟩
      | none => readFlags { flags with hyphen := some span, dangling := true } (left - 1) cs
    else
      match flagNamed? c with
      | none => refuse .modeUnknown span
      | some flag =>
        match flags.seen.lookup flag with
        | some first => .error ⟨.modeRepeated, span, some first⟩
        | none =>
          let modes := flags.modes.set flag flags.hyphen.isNone
          readFlags ⟨modes, (flag, span) :: flags.seen, flags.hyphen, false⟩ (left - 1) cs

/-! ### The state of reading -/

/-- The constructs read so far in a row, last first, and the place where the row starts. -/
structure Row where
  start : Nat
  items : List Node

def Row.node (row : Row) (stop : Nat) : Node :=
  match row.items with
  | [] => .nothing ⟨row.start, stop⟩
  | [item] => item
  | items => .sequence ⟨row.start, stop⟩ items.reverse

/-- What waits on the stack: an open group with the row before it and the modes around it, or
a choice with its branches so far, last first. -/
inductive Frame where
  | group (before : Row) (span : Span) (label : Option GroupLabel) (outer : Modes)
  | choice (start : Nat) (branches : List Node)

/-- The state between two constructs of a pattern. -/
structure State where
  modes : Modes
  row : Row
  stack : List Frame := []
  groups : Nat := 0
  names : List (String × Span) := []

def State.push (state : State) (node : Node) : State :=
  { state with row := ⟨state.row.start, node :: state.row.items⟩ }

/-! ### Groups -/

def isNameStart (c : Char) : Bool := c = '_' || Unicode.isAlphabetic c

def isNameChar (c : Char) : Bool :=
  ['_', '.', '[', ']'].contains c || Unicode.isAlphanumeric c

/-- Reads the characters of a group name up to the angle bracket. -/
def readNameChars : Bool → Nat → List Char → Except Fault (List Char × Cursor)
  | _, left, [] => refuse .nameUnfinished (.point left)
  | first, left, c :: cs =>
    if c = '>' then .ok ([], ⟨left, c :: cs⟩)
    else
      let valid := if first then isNameStart c else isNameChar c
      if valid then do
        let (name, after) ← readNameChars false (left - 1) cs
        .ok (c :: name, after)
      else refuse .nameInvalid ⟨left, left - 1⟩

/-- Reads the name of a group and the angle bracket after it. Names are not repeated. -/
def readName (names : List (String × Span)) (c : Cursor) :
    Except Fault (String × Span × Cursor) := do
  let (chars, stop) ← readNameChars true c.left c.rest
  let name := String.ofList chars
  let span : Span := ⟨c.left, stop.left⟩
  if chars.isEmpty then refuse .nameEmpty c.here
  match names.lookup name with
  | some first => .error ⟨.nameRepeated, span, some first⟩
  | none => .ok (name, span, stop.next)

def State.openGroup (state : State) (span : Span) (label : Option GroupLabel) (modes : Modes)
    (c : Cursor) : State :=
  { state with
    modes := modes
    row := ⟨c.left, []⟩
    stack := .group state.row span label state.modes :: state.stack }

def State.openCapture (state : State) (span : Span) (name : Option (String × Span))
    (c : Cursor) : State :=
  let label : GroupLabel := ⟨state.groups + 1, name.map (·.1)⟩
  let names := name.toList ++ state.names
  { state with groups := state.groups + 1, names := names }.openGroup span (some label)
    state.modes c

/-- Reads what follows the question mark of a group without capture: flags, which either
stand alone or govern the group. -/
def readFlagGroup (state : State) (span : Span) (mark c : Cursor) :
    Except Fault (State × Cursor) := do
  if c.atEnd then refuse .groupUnclosed span
  let (flags, stop) ← readFlags { modes := state.modes } c.left c.rest
  let after := stop.next
  if stop.rest.head? = some ')' then
    if flags.seen.isEmpty && flags.hyphen.isNone then refuse .nothingToRepeat mark.here
    let state := state.push (.flags ⟨span.start, after.left⟩)
    .ok ({ state with modes := flags.modes }, after)
  else .ok (state.openGroup span none flags.modes after, after)

/-- Reads the opening of a group. -/
def readGroup (state : State) (c : Cursor) : Except Fault (State × Cursor) :=
  let span := c.charSpan
  let mark := c.advance state.modes.verbose
  let lookAround (size : Nat) : Except Fault (State × Cursor) :=
    refuse .lookAround ⟨span.start, (mark.drop size).left⟩
  let named (size : Nat) : Except Fault (State × Cursor) := do
    let (name, nameSpan, after) ← readName state.names (mark.drop size)
    .ok (state.openCapture span (some (name, nameSpan)) after, after)
  match mark.rest with
  | '?' :: '=' :: _ => lookAround 2
  | '?' :: '!' :: _ => lookAround 2
  | '?' :: '<' :: '=' :: _ => lookAround 3
  | '?' :: '<' :: '!' :: _ => lookAround 3
  | '?' :: 'P' :: '<' :: _ => named 3
  | '?' :: '<' :: _ => named 2
  | '?' :: _ => readFlagGroup state span mark mark.next
  | _ => .ok (state.openCapture span none mark, mark)

/-- Ends a branch of a choice, which the next one follows. -/
def State.branch (state : State) (c : Cursor) : State :=
  let node := state.row.node c.left
  let stack :=
    match state.stack with
    | .choice start branches :: stack => .choice start (node :: branches) :: stack
    | stack => .choice state.row.start [node] :: stack
  { state with row := ⟨c.next.left, []⟩, stack := stack }

/-- The row with the choice around it, if there is one, and the stack below. -/
def State.body (state : State) (stop : Nat) : Node × List Frame :=
  let node := state.row.node stop
  match state.stack with
  | .choice start branches :: stack => (.choice ⟨start, stop⟩ (node :: branches).reverse, stack)
  | stack => (node, stack)

def State.closeGroup (state : State) (c : Cursor) : Except Fault State :=
  match state.body c.left with
  | (body, .group before span label outer :: stack) =>
    let group := .group ⟨span.start, c.next.left⟩ label body
    .ok { state with
      modes := outer, row := ⟨before.start, group :: before.items⟩, stack := stack }
  | _ => refuse .groupUnopened c.charSpan

def State.finish (state : State) (c : Cursor) : Except Fault Node :=
  match state.body c.left with
  | (body, []) => .ok body
  | (_, .group _ span _ _ :: _) => refuse .groupUnclosed span
  | (body, .choice .. :: _) => .ok body

/-! ### Repetitions -/

/-- The construct that a repetition at the cursor repeats, and the row before it. -/
def State.repeatable (state : State) (c : Cursor) : Except Fault (Node × State) :=
  match state.row.items with
  | [] => refuse .nothingToRepeat c.here
  | .nothing _ :: _ => refuse .nothingToRepeat c.here
  | .flags _ :: _ => refuse .nothingToRepeat c.here
  | node :: items => .ok (node, { state with row := ⟨state.row.start, items⟩ })

/-- Puts a repetition in the place of what it repeats. A question mark makes it lazy, and the
swap of greed reverses this. -/
def State.repeat (state : State) (body : Node) (min : Nat) (max : Option Nat) (lazily : Bool)
    (stop : Nat) : State :=
  state.push (.repeated ⟨body.span.start, stop⟩ min max (lazily == state.modes.swapGreed) body)

def readRepetition (state : State) (min : Nat) (max : Option Nat) (c : Cursor) :
    Except Fault (State × Cursor) := do
  let (body, state) ← state.repeatable c
  let after := c.next
  if after.rest.head? = some '?' then
    .ok (state.repeat body min max true after.next.left, after.next)
  else .ok (state.repeat body min max false after.left, after)

/-- Reads the counts of a repetition, after the opening brace. -/
def readCounts (verbose : Bool) (start : Nat) (c : Cursor) :
    Except Fault (Nat × Option Nat × Cursor) := do
  let (least, after) := readDecimal verbose c
  match after.rest with
  | [] => refuse .countUnclosed ⟨start, after.left⟩
  | ',' :: _ =>
    let next := after.advance verbose
    match next.rest with
    | [] => refuse .countUnclosed ⟨start, next.left⟩
    | '}' :: _ => .ok (← least, none, next)
    | _ =>
      let least ← least
      let (most, after) := readDecimal verbose next
      .ok (least, some (← most), after)
  | _ =>
    let count ← least
    .ok (count, some count, after)

def readCounted (state : State) (c : Cursor) : Except Fault (State × Cursor) := do
  let verbose := state.modes.verbose
  let (body, state) ← state.repeatable c
  let first := c.advance verbose
  if first.atEnd then refuse .countUnclosed ⟨c.left, first.left⟩
  let (min, max, stop) ← readCounts verbose c.left first
  if stop.rest.head? != some '}' then refuse .countUnclosed ⟨c.left, stop.left⟩
  let after := stop.advance verbose
  let lazily := after.rest.head? == some '?'
  let after := if lazily then after.next else after
  if max.any (· < min) then refuse .countReversed ⟨c.left, after.left⟩
  else .ok (state.repeat body min max lazily after.left, after)

/-! ### Patterns -/

/-- Reads one construct or a part of one. -/
def readPart (state : State) (c : Cursor) (char : Char) : Except Fault (State × Cursor) := do
  let modes := state.modes
  match char with
  | '(' => readGroup state c
  | ')' => .ok (← state.closeGroup c, c.next)
  | '|' => .ok (state.branch c, c.next)
  | '[' =>
    let (bracket, after) ← readBracket modes.verbose c
    .ok (state.push (.bracketed modes bracket.span bracket.negated bracket.body), after)
  | '?' => readRepetition state 0 (some 1) c
  | '*' => readRepetition state 0 none c
  | '+' => readRepetition state 1 none c
  | '{' => readCounted state c
  | '\\' =>
    let (primitive, after) ← readEscape modes.verbose c
    .ok (state.push (primitive.node modes), after)
  | '.' => .ok (state.push (.dot modes c.charSpan), c.next)
  | '^' => .ok (state.push (.anchor modes c.charSpan .lineStart), c.next)
  | '$' => .ok (state.push (.anchor modes c.charSpan .lineEnd), c.next)
  | char => .ok (state.push (.literal modes ⟨c.charSpan, char, false⟩), c.next)

/-- Reads the rest of a pattern. The fuel bounds the number of parts. -/
def readFrom : Nat → State → Cursor → Except Fault Node
  | fuel, state, c =>
    let c := c.skip state.modes.verbose
    match fuel, c.rest with
    | fuel + 1, char :: _ => do
      let (state, after) ← readPart state c char
      readFrom fuel state after
    | _, _ => state.finish c

def readPattern (modes : Modes) (pattern : List Char) : Except Fault Node := do
  let c := Cursor.ofChars pattern
  let node ← readFrom c.left { modes := modes, row := ⟨c.left, []⟩ } c
  match node.tooDeep nestingLimit with
  | some span => refuse (.nestedTooDeep nestingLimit) span
  | none => .ok node

end QueryFunctions.Pattern
