import QueryFunctions.Pattern.Cursor

/-! What a backslash introduces: literal characters by name or by code, classes, anchors and
word edges. Each reader starts at the backslash. -/

namespace QueryFunctions.Pattern

open Unicode (PropertyQuery)

/-- What stands on its own, inside brackets or outside of them. -/
inductive Primitive where
  | literal (lit : Literal)
  | anchor (span : Span) (place : Anchor)
  | property (span : Span) (negated : Bool) (query : PropertyQuery)
  | short (span : Span) (negated : Bool) (kind : ShortClass)

def Primitive.span : Primitive → Span
  | .literal lit => lit.span
  | .anchor span _ => span
  | .property span _ _ => span
  | .short span _ _ => span

def Primitive.node (modes : Modes) : Primitive → Node
  | .literal lit => .literal modes lit
  | .anchor span place => .anchor modes span place
  | .property span negated query => .property modes span negated query
  | .short span negated kind => .short modes span negated kind

/-! ### Characters by code -/

/-- The number of digits of the three forms without braces. -/
def hexWidth (letter : Char) : Nat :=
  if letter = 'x' then 2 else if letter = 'u' then 4 else 8

/-- Reads exactly `count` digits; every one but the first is stepped to. -/
def readHexDigits (verbose : Bool) : Nat → Cursor → Except Fault (List Char × Cursor)
  | 0, c => .ok ([], c)
  | count + 1, c =>
    match c.rest with
    | [] => refuse .escapeUnfinished c.here
    | digit :: _ =>
      if isHexDigit digit then do
        let (digits, after) ← readHexDigits verbose count (c.advance verbose)
        .ok (digit :: digits, after)
      else refuse .hexNotDigit c.charSpan

def literalOfCode (span digits : Span) (isByte : Bool) (code : List Char) :
    Except Fault Literal :=
  match charOfCode? (valueOfDigits 16 code) with
  | some char => .ok ⟨span, char, isByte⟩
  | none => refuse .hexInvalid digits

def readHexBraced (verbose : Bool) (start : Nat) (brace : Cursor) :
    Except Fault (Literal × Cursor) := do
  let (code, stop) := (brace.advance verbose).gather verbose isHexDigit
  match stop.rest with
  | [] => refuse .escapeUnfinished ⟨brace.left, stop.left⟩
  | '}' :: _ =>
    let after := stop.advance verbose
    if code.isEmpty then refuse .hexEmpty ⟨brace.left, after.left⟩
    let lit ← literalOfCode ⟨start, after.left⟩ ⟨brace.next.left, stop.left⟩ false code
    .ok (lit, after)
  | _ => refuse .hexNotDigit stop.charSpan

/-- Reads a character given by its code, from the letter of the form on. -/
def readHex (verbose : Bool) (start : Nat) (letter : Char) (c : Cursor) :
    Except Fault (Literal × Cursor) := do
  let first := c.advance verbose
  match first.rest with
  | [] => refuse .escapeUnfinished first.here
  | '{' :: _ => readHexBraced verbose start first
  | _ =>
    let (code, after) ← readHexDigits verbose (hexWidth letter) first
    let spelling : Span := ⟨start, after.left⟩
    let lit ← literalOfCode spelling ⟨first.left, after.left⟩ (letter = 'x') code
    .ok (lit, after)

/-! ### Properties -/

/-- Cuts a text at the first place where `sep` stands, which is dropped. -/
def cutAt? (sep : List Char) : List Char → Option (List Char × List Char)
  | [] => none
  | c :: cs =>
    if sep.isPrefixOf (c :: cs) then some ([], (c :: cs).drop sep.length)
    else (cutAt? sep cs).map fun (before, after) => (c :: before, after)

/-- The query that the text in braces asks, and whether it asks for the other characters. The
name and the value of a property stand around `!=`, a colon or an equals sign; the first of
these that occurs decides, and `!=` asks for the others. -/
def queryOfText (text : List Char) : Bool × PropertyQuery :=
  let valued : List Char × List Char → PropertyQuery
    | (property, value) => .valued (String.ofList property) (String.ofList value)
  match cutAt? ['!', '='] text with
  | some cut => (true, valued cut)
  | none =>
    match (cutAt? [':'] text).orElse fun _ => cutAt? ['='] text with
    | some cut => (false, valued cut)
    | none => (false, .named (String.ofList text))

/-- Reads a property, from the letter `p` on. -/
def readProperty (verbose : Bool) (start : Nat) (negated : Bool) (c : Cursor) :
    Except Fault (Primitive × Cursor) :=
  let first := c.advance verbose
  match first.rest with
  | [] => refuse .escapeUnfinished first.here
  | '{' :: _ =>
    let (text, stop) := (first.advance verbose).gather verbose (· != '}')
    if stop.atEnd then refuse .escapeUnfinished stop.here
    else
      let after := stop.next
      let (others, query) := queryOfText text
      .ok (.property ⟨start, after.left⟩ (negated != others) query, after)
  | '\\' :: _ => refuse .propertyInvalid first.charSpan
  | name :: _ =>
    let after := first.advance verbose
    .ok (.property ⟨start, after.left⟩ negated (.named name.toString), after)

/-! ### Word edges -/

/-- The word edges that have a name in braces. -/
def wordEdgeNamed? (name : String) : Option WordEdge :=
  [("start", WordEdge.start), ("end", .stop), ("start-half", .startHalf),
    ("end-half", .stopHalf)].lookup name

/-- Whether the name of a word edge may hold the character. -/
def isEdgeNameChar (c : Char) : Bool := c.isAlpha || c = '-'

/-- Reads the name of a word edge in braces, which starts at `brace`. Where no name starts,
the brace belongs to a count and nothing is read. -/
def readEdgeName? (verbose : Bool) (start : Nat) (brace : Cursor) :
    Except Fault (Option (WordEdge × Cursor)) :=
  let first := brace.advance verbose
  match first.rest with
  | [] => refuse .wordEdgeUnfinished ⟨start, first.left⟩
  | c :: _ =>
    if !isEdgeNameChar c then .ok none
    else
      let (name, stop) := first.gather verbose isEdgeNameChar
      match stop.rest with
      | '}' :: _ =>
        match wordEdgeNamed? (String.ofList name) with
        | some edge => .ok (some (edge, stop.next))
        | none => refuse .wordEdgeUnknown ⟨first.left, stop.left⟩
      | _ => refuse .wordEdgeUnclosed ⟨brace.left, stop.left⟩

/-! ### Escapes -/

/-- The characters that have a meaning of their own and so stand for themselves only after a
backslash. -/
def isMeta (c : Char) : Bool := "\\.+*?()|[]\x7b\x7d^$#&-~".toList.contains c

/-- The characters that a backslash may precede without effect. -/
def isEscapable (c : Char) : Bool :=
  c.toNat < 128 && !c.isAlphanum && c != '<' && c != '>'

/-- The control characters that have a one letter escape. -/
def controlNamed? (c : Char) : Option Char :=
  [('a', '\x07'), ('f', '\x0c'), ('t', '\t'), ('n', '\n'), ('r', '\r'), ('v', '\x0b')].lookup c

/-- The anchors that have a one letter escape. -/
def anchorNamed? (c : Char) : Option Anchor :=
  [('A', Anchor.textStart), ('z', .textEnd), ('b', .word .either), ('B', .word .neither),
    ('<', .word .start), ('>', .word .stop)].lookup c

/-- The classes that have a one letter escape, and whether they are negated. -/
def shortClassNamed? (c : Char) : Option (ShortClass × Bool) :=
  [('d', (ShortClass.digit, false)), ('D', (.digit, true)), ('s', (.space, false)),
    ('S', (.space, true)), ('w', (.word, false)), ('W', (.word, true))].lookup c

/-- Reads an escape of one letter, which `after` follows. -/
def readLetterEscape (verbose : Bool) (start : Nat) (letter : Char) (after : Cursor) :
    Except Fault (Primitive × Cursor) :=
  let span : Span := ⟨start, after.left⟩
  if isMeta letter || isEscapable letter then .ok (.literal ⟨span, letter, false⟩, after)
  else
    match controlNamed? letter, anchorNamed? letter with
    | some control, _ => .ok (.literal ⟨span, control, false⟩, after)
    | none, some anchor =>
      match letter, after.rest with
      | 'b', '{' :: _ => do
        match ← readEdgeName? verbose start after with
        | some (edge, stop) => .ok (.anchor ⟨start, stop.left⟩ (.word edge), stop)
        | none => .ok (.anchor span anchor, after)
      | _, _ => .ok (.anchor span anchor, after)
    | none, none => refuse .escapeUnknown span

/-- Reads what starts with a backslash. -/
def readEscape (verbose : Bool) (c : Cursor) : Except Fault (Primitive × Cursor) :=
  let start := c.left
  let first := c.next
  match first.rest with
  | [] => refuse .escapeUnfinished ⟨start, first.left⟩
  | letter :: _ =>
    if letter.isDigit then refuse .backreference ⟨start, first.next.left⟩
    else if letter = 'x' || letter = 'u' || letter = 'U' then do
      let (lit, after) ← readHex verbose start letter first
      .ok (.literal lit, after)
    else if letter = 'p' || letter = 'P' then
      readProperty verbose start (letter = 'P') first
    else
      match shortClassNamed? letter with
      | some (kind, negated) => .ok (.short ⟨start, first.next.left⟩ negated kind, first.next)
      | none => readLetterEscape verbose start letter first.next

end QueryFunctions.Pattern
