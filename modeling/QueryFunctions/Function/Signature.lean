import QueryFunctions.Function.Argument

/-! What a function asks of its arguments: how many there are, and the type of each. -/

namespace QueryFunctions

/-- What a position asks of its argument. -/
inductive ArgumentType where
  | any
  | null
  | boolean
  | number
  | string
  | array
  | object
  deriving DecidableEq, Repr

namespace ArgumentType

/-- Whether a type admits arguments of a kind. No type admits expressions. -/
def accepts : ArgumentType → Kind → Bool
  | any, kind => kind != .expression
  | null, kind => kind == .null
  | boolean, kind => kind == .boolean
  | number, kind => kind == .number
  | string, kind => kind == .string
  | array, kind => kind == .array
  | object, kind => kind == .object

def describe : ArgumentType → String
  | any => "any value"
  | null => "null"
  | boolean => "boolean"
  | number => "number"
  | string => "string"
  | array => "array"
  | object => "object"

/-- The name of a type in the text of a signature. -/
def name : ArgumentType → String
  | any => "Any"
  | null => "Null"
  | boolean => "Boolean"
  | number => "Number"
  | string => "String"
  | array => "Array"
  | object => "Object"

end ArgumentType

/-- Bounds on the number of arguments, both included. Without `max` there is no upper one. -/
structure Arity where
  min : Nat
  max : Option Nat
  deriving DecidableEq, Repr

namespace Arity

def exact (n : Nat) : Arity := ⟨n, some n⟩

def between (min max : Nat) : Arity := ⟨min, some max⟩

def atLeast (min : Nat) : Arity := ⟨min, none⟩

def accepts (arity : Arity) (count : Nat) : Bool :=
  arity.min ≤ count && arity.max.all (count ≤ ·)

def describe (arity : Arity) : String :=
  match arity.max with
  | some max =>
    if max = arity.min then toString max else toString arity.min ++ " to " ++ toString max
  | none => "at least " ++ toString arity.min

end Arity

/-- The types of the positions, the last of which also holds for all later ones, and the
number of arguments. -/
structure Signature where
  types : List ArgumentType
  arity : Arity
  deriving DecidableEq, Repr

namespace Signature

/-- One argument for each type. -/
def exact (types : List ArgumentType) : Signature := ⟨types, .exact types.length⟩

def ranged (min max : Nat) (type : ArgumentType) : Signature := ⟨[type], .between min max⟩

def variadic (min : Nat) (type : ArgumentType) : Signature := ⟨[type], .atLeast min⟩

def typeAt? (signature : Signature) (index : Nat) : Option ArgumentType :=
  (signature.types[index]?).orElse fun _ => signature.types.getLast?

/-- Whether an argument of a kind may stand at a position. -/
def admits (signature : Signature) (index : Nat) (kind : Kind) : Bool :=
  (signature.typeAt? index).all (·.accepts kind)

def describe (signature : Signature) : String :=
  "[" ++ ", ".intercalate (signature.types.map ArgumentType.name) ++ "]"

end Signature

end QueryFunctions
