import QueryFunctions.Pattern.Expr
import QueryFunctions.Unicode.Classes

/-! Places between the characters of a text, and the conditions that patterns put on them.
One character on each side decides every condition. -/

namespace QueryFunctions.Pattern

/-- A place in a text: the characters before and after it, if any, and the number of
characters after it. -/
structure Place where
  before : Option Char
  after : Option Char
  left : Nat
  deriving DecidableEq, Repr

/-- Whether a word goes on at a side of a place, for words of all or of ASCII characters. -/
def isWordSide (ascii : Bool) (side : Option Char) : Bool :=
  side.any fun c => if ascii then Unicode.isAsciiWord c else Unicode.isWord c

def Look.holds (before after : Option Char) : Look → Bool
  | textStart => before.isNone
  | textEnd => after.isNone
  | lineStart => before.isNone || before == some '\n'
  | lineEnd => after.isNone || after == some '\n'
  | lineStartAny =>
    before.isNone || before == some '\n' || (before == some '\r' && after != some '\n')
  | lineEndAny =>
    after.isNone || after == some '\r' || (after == some '\n' && before != some '\r')
  | wordEdge ascii => isWordSide ascii before != isWordSide ascii after
  | notWordEdge ascii => isWordSide ascii before == isWordSide ascii after
  | wordStart ascii => !isWordSide ascii before && isWordSide ascii after
  | wordEnd ascii => isWordSide ascii before && !isWordSide ascii after
  | wordStartHalf ascii => !isWordSide ascii before
  | wordEndHalf ascii => !isWordSide ascii after

mutual

/-- Whether a pattern matches the empty text between two characters. -/
def Expr.vanishes (before after : Option Char) : Expr → Bool
  | .empty => true
  | .literal text => text.isEmpty
  | .chars _ => false
  | .look condition => condition.holds before after
  | .repeated min _ _ body => min = 0 || body.vanishes before after
  | .group _ _ body => body.vanishes before after
  | .row items => Expr.allVanish before after items
  | .choice branches => Expr.anyVanishes before after branches

def Expr.allVanish (before after : Option Char) : List Expr → Bool
  | [] => true
  | e :: es => e.vanishes before after && Expr.allVanish before after es

def Expr.anyVanishes (before after : Option Char) : List Expr → Bool
  | [] => false
  | e :: es => e.vanishes before after || Expr.anyVanishes before after es

end

/-- Whether a pattern matches the empty text at some place of a text, which `before` comes
before. -/
def Expr.vanishesWithin (e : Expr) (before : Option Char) : List Char → Bool
  | [] => e.vanishes before none
  | c :: cs => e.vanishes before (some c) || e.vanishesWithin (some c) cs

end QueryFunctions.Pattern
