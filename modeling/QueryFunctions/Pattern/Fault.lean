/-! What can be wrong with the text of a pattern, and where. Places in a pattern are counted
from its end: a place is the number of characters that follow it. So the place of a
construct does not change when text is put in front of the pattern. -/

namespace QueryFunctions.Pattern

/-- A stretch of a pattern, from `start` to `stop`, each the number of characters after it. -/
structure Span where
  start : Nat
  stop : Nat
  deriving DecidableEq, Repr

def Span.point (place : Nat) : Span := ⟨place, place⟩

/-- The reasons for which a pattern is refused. -/
inductive Cause where
  | escapeInBracket
  | rangeReversed
  | rangeNotLiteral
  | bracketUnclosed
  | decimalInvalid
  | countEmpty
  | countReversed
  | countUnclosed
  | hexEmpty
  | hexInvalid
  | hexNotDigit
  | escapeUnfinished
  | escapeUnknown
  | modesDangling
  | modeRepeated
  | negationRepeated
  | modesUnfinished
  | modeUnknown
  | nameRepeated
  | nameEmpty
  | nameInvalid
  | nameUnfinished
  | groupUnclosed
  | groupUnopened
  | nestedTooDeep (limit : Nat)
  | nothingToRepeat
  | wordEdgeUnclosed
  | wordEdgeUnknown
  | wordEdgeUnfinished
  | propertyInvalid
  | backreference
  | lookAround
  | notInByteMode
  | invalidUtf8
  | propertyUnknown
  | propertyValueUnknown
  deriving DecidableEq, Repr

def Cause.message : Cause → String
  | escapeInBracket => "invalid escape sequence found in character class"
  | rangeReversed => "invalid character class range, the start must be <= the end"
  | rangeNotLiteral => "invalid range boundary, must be a literal"
  | bracketUnclosed => "unclosed character class"
  | decimalInvalid => "decimal literal invalid"
  | countEmpty => "repetition quantifier expects a valid decimal"
  | countReversed => "invalid repetition count range, the start must be <= the end"
  | countUnclosed => "unclosed counted repetition"
  | hexEmpty => "hexadecimal literal empty"
  | hexInvalid => "hexadecimal literal is not a Unicode scalar value"
  | hexNotDigit => "invalid hexadecimal digit"
  | escapeUnfinished => "incomplete escape sequence, reached end of pattern prematurely"
  | escapeUnknown => "unrecognized escape sequence"
  | modesDangling => "dangling flag negation operator"
  | modeRepeated => "duplicate flag"
  | negationRepeated => "flag negation operator repeated"
  | modesUnfinished => "expected flag but got end of regex"
  | modeUnknown => "unrecognized flag"
  | nameRepeated => "duplicate capture group name"
  | nameEmpty => "empty capture group name"
  | nameInvalid => "invalid capture group character"
  | nameUnfinished => "unclosed capture group name"
  | groupUnclosed => "unclosed group"
  | groupUnopened => "unopened group"
  | nestedTooDeep limit =>
    "exceed the maximum number of nested parentheses/brackets (" ++ toString limit ++ ")"
  | nothingToRepeat => "repetition operator missing expression"
  | wordEdgeUnclosed =>
    "special word boundary assertion is either unclosed or contains an invalid character"
  | wordEdgeUnknown =>
    "unrecognized special word boundary assertion, valid choices are: " ++
      "start, end, start-half or end-half"
  | wordEdgeUnfinished =>
    "found either the beginning of a special word boundary or a bounded repetition on a " ++
      "\\b with an opening brace, but no closing brace"
  | propertyInvalid => "invalid Unicode character class"
  | backreference => "backreferences are not supported"
  | lookAround =>
    "look-around, including look-ahead and look-behind, is not supported"
  | notInByteMode => "Unicode not allowed here"
  | invalidUtf8 => "pattern can match invalid UTF-8"
  | propertyUnknown => "Unicode property not found"
  | propertyValueUnknown => "Unicode property value not found"

/-- A reason to refuse a pattern, with the stretch at fault. A repetition of something that
may stand only once also tells where it stood first. -/
structure Fault where
  cause : Cause
  span : Span
  first : Option Span := none
  deriving DecidableEq, Repr

def refuse {α : Type} (cause : Cause) (span : Span) : Except Fault α :=
  .error ⟨cause, span, none⟩

end QueryFunctions.Pattern
