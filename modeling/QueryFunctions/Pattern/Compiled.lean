import QueryFunctions.Pattern.FlagSet
import QueryFunctions.Pattern.Grammar
import QueryFunctions.Pattern.Meaning
import QueryFunctions.Pattern.Opening
import QueryFunctions.Pattern.Segmentation

/-! Patterns ready for use. A pattern is compiled under flags and limits, and then bound to
the text that it is to be matched against; it is refused there if it matches the empty text
anywhere in that text. -/

namespace QueryFunctions.Pattern

/-! ### Sources -/

/-- A text with a backslash before every character that has a meaning in patterns. -/
def escape (text : List Char) : List Char :=
  text.flatMap fun c => if isMeta c then ['\\', c] else [c]

/-- The pattern to read: the given one, or one that stands for its text. -/
def FlagSet.source (flags : FlagSet) (pattern : List Char) : List Char :=
  if flags.literal then escape pattern else pattern

/-! ### Size -/

/-- Limits on what a pattern may take, in bytes. -/
structure Limits where
  program : Nat := 10485760
  cache : Nat := 2097152
  deriving DecidableEq, Repr

mutual

/-- An estimate of the number of states that the engine's own matcher for a pattern has, with
every repetition written out. -/
def Expr.states : Expr → Nat
  | .empty => 1
  | .literal text => (String.ofList text).utf8ByteSize
  | .chars set => set.flips.length
  | .look _ => 1
  | .repeated min max _ body => Max.max 1 (max.getD min) * (body.states + 1)
  | .group _ _ body => body.states + 2
  | .row items => Expr.statesOfAll items
  | .choice branches => Expr.statesOfAll branches + 1

def Expr.statesOfAll : List Expr → Nat
  | [] => 0
  | e :: es => e.states + Expr.statesOfAll es

end

/-- An estimate of the size in bytes of the engine's own matcher for a pattern, at 32 bytes for a
state. One that stands for a list of texts has none. -/
def Expr.programSize (e : Expr) : Nat := if e.listing?.isSome then 0 else 32 * e.states

/-! ### Groups -/

mutual

/-- The groups of a pattern with their names. -/
def Expr.groups : Expr → List GroupLabel
  | .repeated _ _ _ body => body.groups
  | .group index name body => ⟨index, name⟩ :: body.groups
  | .row items => Expr.groupsOfAll items
  | .choice branches => Expr.groupsOfAll branches
  | _ => []

def Expr.groupsOfAll : List Expr → List GroupLabel
  | [] => []
  | e :: es => e.groups ++ Expr.groupsOfAll es

end

/-- The names of the groups of a pattern by number, up to the last group that is left in
it. Group 0, the whole match, has no name. -/
def Expr.groupNames (e : Expr) : List (Option String) :=
  let groups := e.groups
  let count := groups.foldl (fun count label => max count label.index) 0
  (List.range (count + 1)).map fun index => (groups.find? (·.index = index)).bind (·.name)

/-! ### Compilation -/

/-- A compiled pattern: what was read, what it means, and the names of its groups. -/
structure Compiled where
  source : List Char
  expr : Expr
  groupNames : List (Option String)

/-- The highest number of a group. -/
def Compiled.groupCount (compiled : Compiled) : Nat := compiled.groupNames.length - 1

def exprOf (modes : Modes) (pattern : List Char) : Except Fault Expr := do
  (← readPattern modes pattern).expr

def build (modes : Modes) (limits : Limits) (source : List Char) : Except Refusal Compiled :=
  match exprOf modes source with
  | .error fault => .error (.malformed source fault)
  | .ok expr =>
    if expr.programSize > limits.program then .error (.tooLarge limits.program)
    else .ok ⟨source, expr, expr.groupNames⟩

def compile (flags : FlagSet) (limits : Limits) (pattern : String) : Except Refusal Compiled :=
  build flags.modes limits (flags.source pattern.toList)

namespace Compiled

/-- Whether the pattern counts as matching the empty text at some place of a text. A pattern
that is looked up counts wherever one of its characters comes next, although that character
is then part of the match. -/
def matchesEmptyTextIn (compiled : Compiled) (text : String) : Bool :=
  match compiled.expr.lookup? with
  | some characters => text.toList.any characters.contains
  | none => compiled.expr.vanishesWithin none text.toList

/-- The text cut by the matches of the pattern. -/
def segments (compiled : Compiled) (text : String) : Segmentation :=
  compiled.expr.segments compiled.groupCount text.toList

end Compiled

/-- Whether the guard refuses a pattern for a text. It goes by a matcher that it builds for
itself. -/
def guardRefuses (flags : FlagSet) (limits : Limits) (pattern text : String) :
    Except Refusal Bool := do
  let own ← build flags.guardModes limits (flags.source pattern.toList)
  .ok (own.matchesEmptyTextIn text)

end QueryFunctions.Pattern
