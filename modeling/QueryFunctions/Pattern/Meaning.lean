import QueryFunctions.Pattern.Expr
import QueryFunctions.Pattern.Tree
import QueryFunctions.Unicode.Classes
import QueryFunctions.Unicode.Folding

/-! What a pattern means: the expression for a written construct. Case folding and negation
of sets are carried out here; a construct that its modes do not allow is refused. In byte
mode, where characters are single bytes, only what stays within ASCII is allowed. -/

namespace QueryFunctions.Pattern

open Unicode

/-! ### Sets -/

/-- A meaning, where there is one. -/
abbrev Meant (α : Type) := Except Fault α

/-- The set with the other cases of its characters, if case is ignored. -/
def Modes.fold (modes : Modes) (set : CodeSet) : CodeSet :=
  if !modes.ignoreCase then set
  else if modes.byChar then caseClosure set
  else asciiCaseClosure set

/-- The bytes that are not in a set of bytes. -/
def otherBytes (set : CodeSet) : CodeSet := (CodeSet.ofRange 0 255).diff set

/-- The complement of a set, if it is asked for. In byte mode the result must be ASCII. -/
def Modes.negate (modes : Modes) (span : Span) (negated : Bool) (set : CodeSet) : Meant CodeSet :=
  if modes.byChar then .ok (if negated then set.compl else set)
  else
    let set := if negated then otherBytes set else set
    if (set.diff .ascii).isEmpty then .ok set else refuse .invalidUtf8 span

def propertySet (modes : Modes) (span : Span) (negated : Bool) (query : PropertyQuery) :
    Meant CodeSet :=
  if !modes.byChar then refuse .notInByteMode span
  else
    match query.resolve with
    | .ok set => modes.negate span negated (modes.fold set)
    | .error .unknownProperty => refuse .propertyUnknown span
    | .error .unknownValue => refuse .propertyValueUnknown span

def asciiShortSet : ShortClass → CodeSet
  | .digit => .ofRange 48 57
  | .space => CodeSet.unions [.ofRange 9 13, .single 32]
  | .word => asciiWord

/-- The set of a class with a one letter escape, which is closed under case folding as it
is. -/
def shortSet (modes : Modes) (span : Span) (negated : Bool) (kind : ShortClass) : Meant CodeSet :=
  let set :=
    if modes.byChar then
      match kind with
      | .digit => digit
      | .space => blank
      | .word => word
    else asciiShortSet kind
  modes.negate span negated set

/-- The character or byte that a literal in byte mode stands for. -/
def byteOf (lit : Literal) : Meant Nat :=
  if lit.char.toNat < 128 then .ok lit.char.toNat
  else if lit.isByte then refuse .invalidUtf8 lit.span
  else refuse .notInByteMode lit.span

def rangeSet (modes : Modes) (first last : Literal) : Meant CodeSet :=
  if modes.byChar then .ok (.ofChars first.char last.char)
  else do .ok (.ofRange (← byteOf first) (← byteOf last))

def SetOp.apply : SetOp → CodeSet → CodeSet → CodeSet
  | .inter => .inter
  | .diff => .diff
  | .symmDiff => .symmDiff

mutual

def SetItem.set (modes : Modes) : SetItem → Meant CodeSet
  | .nothing _ => .ok .empty
  | .literal lit => rangeSet modes lit lit
  | .range _ first last => rangeSet modes first last
  | .posix span negated set => modes.negate span negated (modes.fold set)
  | .property span negated query => propertySet modes span negated query
  | .short span negated kind => shortSet modes span negated kind
  | .bracketed span negated body => do
    modes.negate span negated (modes.fold (← body.set modes))
  | .union _ items => SetItem.unionSet modes items
  | .binary _ op lhs rhs => do
    let left ← lhs.set modes
    let right ← rhs.set modes
    .ok (op.apply (modes.fold left) (modes.fold right))

def SetItem.unionSet (modes : Modes) : List SetItem → Meant CodeSet
  | [] => .ok .empty
  | item :: items => do
    let first ← item.set modes
    let rest ← SetItem.unionSet modes items
    .ok (first.union rest)

end

/-! ### Single constructs -/

def literalExpr (modes : Modes) (lit : Literal) : Meant Expr :=
  let plain : Expr := .literal [lit.char]
  if modes.byChar then
    if modes.ignoreCase && !(casePartners lit.char.toNat).isEmpty then
      .ok (.ofSet (caseClass lit.char))
    else .ok plain
  else if lit.isByte && lit.char.toNat ≥ 128 then refuse .invalidUtf8 lit.span
  else if modes.ignoreCase && lit.char.isAlpha then
    .ok (.ofSet (asciiCaseClosure (.single lit.char.toNat)))
  else .ok plain

/-- The expression of the dot: every character, or every one but those that end lines. -/
def dotExpr (modes : Modes) (span : Span) : Meant Expr :=
  if !modes.byChar then refuse .invalidUtf8 span
  else if modes.dotAll then .ok (.ofSet .all)
  else if modes.carriageReturn then
    .ok (.ofSet (CodeSet.compl (.union (.single 10) (.single 13))))
  else .ok (.ofSet (CodeSet.compl (.single 10)))

def lookOf (modes : Modes) : Anchor → Look
  | .lineStart =>
    if !modes.multiLine then .textStart
    else if modes.carriageReturn then .lineStartAny else .lineStart
  | .lineEnd =>
    if !modes.multiLine then .textEnd
    else if modes.carriageReturn then .lineEndAny else .lineEnd
  | .textStart => .textStart
  | .textEnd => .textEnd
  | .word .either => .wordEdge (!modes.byChar)
  | .word .neither => .notWordEdge (!modes.byChar)
  | .word .start => .wordStart (!modes.byChar)
  | .word .stop => .wordEnd (!modes.byChar)
  | .word .startHalf => .wordStartHalf (!modes.byChar)
  | .word .stopHalf => .wordEndHalf (!modes.byChar)

/-! ### Patterns -/

mutual

def Node.expr : Node → Meant Expr
  | .nothing _ => .ok .empty
  | .flags _ => .ok .empty
  | .literal modes lit => literalExpr modes lit
  | .dot modes span => dotExpr modes span
  | .anchor modes _ place => .ok (.look (lookOf modes place))
  | .property modes span negated query => do
    .ok (.ofSet (← propertySet modes span negated query))
  | .short modes span negated kind => do .ok (.ofSet (← shortSet modes span negated kind))
  | .bracketed modes span negated body => do
    .ok (.ofSet (← modes.negate span negated (modes.fold (← body.set modes))))
  | .repeated _ min max greedy body => do .ok ((← body.expr).times min max greedy)
  | .group _ none body => body.expr
  | .group _ (some label) body => do .ok (.group label.index label.name (← body.expr))
  | .sequence _ items => do .ok (.rowOf (← Node.exprs items))
  | .choice _ branches => do .ok (.choiceOf (← Node.exprs branches))

def Node.exprs : List Node → Meant (List Expr)
  | [] => .ok []
  | node :: nodes => do
    let first ← node.expr
    let rest ← Node.exprs nodes
    .ok (first :: rest)

end

end QueryFunctions.Pattern
