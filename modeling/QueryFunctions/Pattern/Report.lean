import QueryFunctions.Pattern.Fault

/-! The text that tells a user what is wrong with a pattern. It shows the pattern with the
stretches at fault underlined. A pattern of several lines is shown between rules with its
lines numbered; a stretch that runs over a line end is described in words instead. -/

namespace QueryFunctions.Pattern

/-- A place in a pattern by line and column, both counted from one. -/
structure Position where
  line : Nat
  column : Nat
  deriving DecidableEq, Repr

/-- The position after a text, starting from a position. -/
def Position.after (p : Position) : List Char → Position
  | [] => p
  | '\n' :: cs => Position.after ⟨p.line + 1, 1⟩ cs
  | _ :: cs => Position.after ⟨p.line, p.column + 1⟩ cs

/-- The position of a place that `left` characters of the pattern follow. -/
def positionOf (pattern : List Char) (left : Nat) : Position :=
  Position.after ⟨1, 1⟩ (pattern.take (pattern.length - left))

/-- The lines of a text. A line end, which may have a carriage return before it, ends a line;
nothing after the last line end is no line. -/
def linesFrom (line : List Char) : List Char → List (List Char)
  | [] => if line.isEmpty then [] else [line.reverse]
  | '\n' :: cs =>
    let line := match line with
      | '\r' :: line => line
      | line => line
    line.reverse :: linesFrom [] cs
  | c :: cs => linesFrom (c :: line) cs

/-- A stretch as the positions of its ends. -/
structure Extent where
  start : Position
  stop : Position

def Span.extent (pattern : List Char) (span : Span) : Extent :=
  ⟨positionOf pattern span.start, positionOf pattern span.stop⟩

/-- The stretches of a fault, in the order of the pattern. -/
def Fault.spans (fault : Fault) : List Span :=
  match fault.first with
  | none => [fault.span]
  | some first =>
    if fault.span.start < first.start then [first, fault.span] else [fault.span, first]

/-- Underlines the stretches of one line; `column` is the number of columns filled so far. -/
def underline (column : Nat) : List Extent → String
  | [] => ""
  | ⟨start, stop⟩ :: extents =>
    let gap := start.column - 1 - column
    let width := max 1 (stop.column - start.column)
    "".pushn ' ' gap ++ "".pushn '^' width ++ underline (column + gap + width) extents

/-- The lines from number `n` on, each after its margin and with its underlining. -/
def annotate (width : Nat) (extents : List Extent) : Nat → List (List Char) → String
  | _, [] => ""
  | n, line :: lines =>
    let number := toString n
    let margin :=
      if width = 0 then "    " else "".pushn ' ' (width - number.length) ++ number ++ ": "
    let marks := extents.filter (·.start.line = n)
    let notes :=
      if marks.isEmpty then "" else "".pushn ' ' margin.length ++ underline 0 marks ++ "\n"
    margin ++ String.ofList line ++ "\n" ++ notes ++ annotate width extents (n + 1) lines

/-- The words for a stretch over several lines. -/
def Extent.describe (extent : Extent) : String :=
  "on line " ++ toString extent.start.line ++ " (column " ++ toString extent.start.column ++
    ") through line " ++ toString extent.stop.line ++ " (column " ++
    toString (extent.stop.column - 1) ++ ")"

/-- The report on a fault of a pattern. -/
def Fault.report (pattern : List Char) (fault : Fault) : String :=
  let lines := linesFrom [] pattern
  let severalLines := pattern.contains '\n'
  let count := if pattern.getLast? = some '\n' then lines.length + 1 else lines.length
  let width := if count ≤ 1 then 0 else (toString count).length
  let extents := fault.spans.map (·.extent pattern)
  let (within, across) := extents.partition fun extent => extent.start.line = extent.stop.line
  let body := annotate width within 1 lines
  let rule := if severalLines then "".pushn '~' 79 ++ "\n" else ""
  let notes :=
    if across.isEmpty || !severalLines then ""
    else "\n".intercalate (across.map Extent.describe) ++ "\n"
  "regex parse error:\n" ++ rule ++ body ++ rule ++ notes ++ "error: " ++ fault.cause.message

end QueryFunctions.Pattern
