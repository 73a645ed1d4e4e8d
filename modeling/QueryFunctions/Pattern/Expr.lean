import QueryFunctions.Text.CodeSet

/-! Patterns in normal form. The constructors below keep expressions small: rows and choices
are flat, neighbouring literals are one, a choice of classes is a class, and what the
branches of a choice begin with alike stands before it. -/

namespace QueryFunctions.Pattern

/-- A condition on a place between two characters. -/
inductive Look where
  | textStart
  | textEnd
  | lineStart
  | lineEnd
  | lineStartAny
  | lineEndAny
  | wordEdge (ascii : Bool)
  | notWordEdge (ascii : Bool)
  | wordStart (ascii : Bool)
  | wordEnd (ascii : Bool)
  | wordStartHalf (ascii : Bool)
  | wordEndHalf (ascii : Bool)
  deriving DecidableEq, Repr

/-- A pattern. A set without elements matches nothing. -/
inductive Expr where
  | empty
  | literal (text : List Char)
  | chars (set : CodeSet)
  | look (look : Look)
  | repeated (min : Nat) (max : Option Nat) (greedy : Bool) (body : Expr)
  | group (index : Nat) (name : Option String) (body : Expr)
  | row (items : List Expr)
  | choice (branches : List Expr)

namespace Expr

/-! ### Equality -/

mutual

/-- Whether two patterns are written alike. -/
def alike : Expr → Expr → Bool
  | .empty, .empty => true
  | .literal s, .literal t => s == t
  | .chars s, .chars t => s == t
  | .look a, .look b => a == b
  | .repeated min max greedy e, .repeated min' max' greedy' e' =>
    min == min' && max == max' && greedy == greedy' && alike e e'
  | .group i name e, .group i' name' e' => i == i' && name == name' && alike e e'
  | .row es, .row es' => allAlike es es'
  | .choice es, .choice es' => allAlike es es'
  | _, _ => false

def allAlike : List Expr → List Expr → Bool
  | [], [] => true
  | e :: es, e' :: es' => alike e e' && allAlike es es'
  | _, _ => false

end

/-! ### Lengths -/

mutual

/-- The least number of characters of a match; there is none if nothing can match. -/
def minLength : Expr → Option Nat
  | .empty => some 0
  | .literal text => some text.length
  | .chars set => if set.isEmpty then none else some 1
  | .look _ => some 0
  | .repeated min _ _ e => e.minLength.map (min * ·)
  | .group _ _ e => e.minLength
  | .row es => minSum es
  | .choice es => minLeast es

/-- The sum of the least lengths, if all of them are known. -/
def minSum : List Expr → Option Nat
  | [] => some 0
  | e :: es =>
    match e.minLength, minSum es with
    | some m, some n => some (m + n)
    | _, _ => none

/-- The least of the least lengths, if all of them are known. -/
def minLeast : List Expr → Option Nat
  | [] => none
  | [e] => e.minLength
  | e :: es =>
    match e.minLength, minLeast es with
    | some m, some n => some (min m n)
    | _, _ => none

end

mutual

/-- The greatest number of characters of a match, if there is one. -/
def maxLength : Expr → Option Nat
  | .empty => some 0
  | .literal text => some text.length
  | .chars set => if set.isEmpty then none else some 1
  | .look _ => some 0
  | .repeated _ max _ e =>
    match e.maxLength, max with
    | some m, some n => some (m * n)
    | _, _ => none
  | .group _ _ e => e.maxLength
  | .row es => maxSum es
  | .choice es => maxMost es

def maxSum : List Expr → Option Nat
  | [] => some 0
  | e :: es =>
    match e.maxLength, maxSum es with
    | some m, some n => some (m + n)
    | _, _ => none

/-- The greatest of the greatest lengths, if all of them are known. -/
def maxMost : List Expr → Option Nat
  | [] => none
  | [e] => e.maxLength
  | e :: es =>
    match e.maxLength, maxMost es with
    | some m, some n => some (max m n)
    | _, _ => none

end

/-! ### Constructors -/

/-- The pattern of the characters in a set. A set of one character is that literal. -/
def ofSet (set : CodeSet) : Expr :=
  match set.theOnly? with
  | some n => .literal [Char.ofNat n]
  | none => .chars set

/-- The repetition of a pattern. What matches the empty text only is repeated at most once,
and a repetition of no copies or of exactly one copy is none. -/
def times (min : Nat) (max : Option Nat) (greedy : Bool) (e : Expr) : Expr :=
  let idle := e.maxLength == some 0
  let min := if idle then Min.min min 1 else min
  let max := if idle then some ((max.map (Min.min · 1)).getD 1) else max
  if min = 0 && max == some 0 then .empty
  else if min = 1 && max == some 1 then e
  else .repeated min max greedy e

/-- Puts an item in front of a flat row, where it may join a literal. -/
def consItem (e : Expr) (items : List Expr) : List Expr :=
  match e, items with
  | .empty, items => items
  | .literal s, .literal t :: items => .literal (s ++ t) :: items
  | e, items => e :: items

def rowItems : Expr → List Expr
  | .row items => items
  | e => [e]

/-- Patterns one after another. -/
def rowOf (es : List Expr) : Expr :=
  match (es.flatMap rowItems).foldr consItem [] with
  | [] => .empty
  | [e] => e
  | items => .row items

def branchesOf : Expr → List Expr
  | .choice branches => branches
  | e => [e]

/-- The set of a pattern that is a literal of one character. -/
def theChar? : Expr → Option CodeSet
  | .literal [c] => some (.single c.toNat)
  | _ => none

def theSet? : Expr → Option CodeSet
  | .chars set => some set
  | _ => none

def theRow? : Expr → Option (List Expr)
  | .row items => some items
  | _ => none

/-- How many items two rows begin with alike. -/
def commonLength : List Expr → List Expr → Nat
  | e :: es, e' :: es' => if alike e e' then commonLength es es' + 1 else 0
  | _, _ => 0

/-- The items with which all of the rows begin, if all patterns are rows and share any. -/
def commonStart? (es : List Expr) : Option (List Expr × List (List Expr)) := do
  let rows ← es.mapM theRow?
  match rows with
  | [] => none
  | first :: rest =>
    let size := rest.foldl (fun size row => commonLength (first.take size) row) first.length
    if size = 0 then none else some (first.take size, rows.map (·.drop size))

/-- The choice of some patterns, the first ones going first. The fuel bounds how often a
common start is taken out. -/
def choiceFrom : Nat → List Expr → Expr
  | fuel, es =>
    match es.flatMap branchesOf with
    | [] => .chars .empty
    | [e] => e
    | branches =>
      match branches.mapM theChar? with
      | some sets => ofSet (.unions sets)
      | none =>
        match branches.mapM theSet? with
        | some sets => ofSet (.unions sets)
        | none =>
          match fuel, commonStart? branches with
          | fuel + 1, some (start, rests) =>
            rowOf (start ++ [choiceFrom fuel (rests.map rowOf)])
          | _, _ => .choice branches

mutual

def size : Expr → Nat
  | .repeated _ _ _ e => e.size + 1
  | .group _ _ e => e.size + 1
  | .row es => sizes es + 1
  | .choice es => sizes es + 1
  | _ => 1

def sizes : List Expr → Nat
  | [] => 0
  | e :: es => e.size + sizes es

end

def choiceOf (es : List Expr) : Expr := choiceFrom (sizes es) es

end Expr

end QueryFunctions.Pattern
