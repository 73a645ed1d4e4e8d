import QueryFunctions.Function.Signature
import QueryFunctions.Pattern.Refusal

/-! Failures of calls: what went wrong, and in which function. -/

namespace QueryFunctions

inductive FailureKind where
  | arity
  | argumentType
  | pattern
  | name
  deriving DecidableEq, Repr

/-- The words that a message of a kind starts with. -/
def FailureKind.heading : FailureKind → String
  | arity => "arity error:"
  | argumentType => "type error:"
  | pattern => "pattern syntax error:"
  | name => "name error:"

/-- What went wrong. Functions from outside the library give a message of their own. -/
inductive Cause where
  | arity (function : String) (expected : Arity) (count : Nat)
  | argumentType (function : String) (index : Nat) (expected : ArgumentType) (actual : Kind)
  | pattern (refusal : Pattern.Refusal)
  | unknownFunction (name : String)
  | custom (kind : FailureKind) (message : String)

namespace Cause

def kind : Cause → FailureKind
  | arity .. => .arity
  | argumentType .. => .argumentType
  | pattern _ => .pattern
  | unknownFunction _ => .name
  | custom kind _ => kind

/-- The wording of a cause. Positions are counted from one. -/
def message : Cause → String
  | arity function expected count =>
    "invalid arity calling \"" ++ function ++ "\" (expected " ++ expected.describe ++
      " but was " ++ toString count ++ ")"
  | argumentType function index expected actual =>
    "invalid argument type calling \"" ++ function ++ "\": argument " ++ toString (index + 1) ++
      " expected " ++ expected.describe ++ " but was " ++ actual.name
  | pattern refusal => refusal.message
  | unknownFunction name => "unknown function '" ++ name ++ "'"
  | custom _ message => message

end Cause

/-- A failure, with the name of the function it is attributed to. The name is empty where the
function is not known yet. -/
structure Failure where
  cause : Cause
  function : String

namespace Failure

def kind (failure : Failure) : FailureKind := failure.cause.kind

def message (failure : Failure) : String := failure.cause.message

/-- Attributes a failure to a function, unless it is attributed to one already. -/
def within (failure : Failure) (function : String) : Failure :=
  if failure.function.isEmpty then { failure with function := function } else failure

def describe (failure : Failure) : String := failure.kind.heading ++ " " ++ failure.message

end Failure

end QueryFunctions
