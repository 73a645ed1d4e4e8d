import QueryFunctions.Json.Value

/-! The arguments of a call. An argument is a value, or an expression that has been passed
without being evaluated. Functions look at their arguments by position; a position that
holds no value reads as nothing, the empty text, or no number. -/

namespace QueryFunctions

inductive Kind where
  | null
  | boolean
  | number
  | string
  | array
  | object
  | expression
  deriving DecidableEq, Repr

def Kind.name : Kind → String
  | null => "null"
  | boolean => "boolean"
  | number => "number"
  | string => "string"
  | array => "array"
  | object => "object"
  | expression => "expression"

/-- The kind of a value, which is never that of an expression. -/
def Json.kind : Json → Kind
  | .null => .null
  | .bool _ => .boolean
  | .number _ => .number
  | .string _ => .string
  | .array _ => .array
  | .object _ => .object

/-- An argument: a value, or the text of an expression that is not evaluated. -/
inductive Argument where
  | value (v : Json)
  | expression (source : String)

namespace Argument

def kind : Argument → Kind
  | value v => v.kind
  | expression _ => .expression

def value? : Argument → Option Json
  | value v => some v
  | expression _ => none

end Argument

def valueAt? (args : List Argument) (index : Nat) : Option Json :=
  (args[index]?).bind Argument.value?

/-- The text of a value, which is empty for null. -/
def Json.coerced : Json → String
  | .null => ""
  | v => v.toText

def textAt? (args : List Argument) (index : Nat) : Option String :=
  (valueAt? args index).map Json.coerced

/-- The text that is passed at a position, or the empty text. -/
def textAt (args : List Argument) (index : Nat) : String := (textAt? args index).getD ""

/-- The number that is passed at a position, or what stands for no number. -/
def numberAt (args : List Argument) (index : Nat) : Binary64 :=
  ((valueAt? args index).map Json.toBinary64).getD .nan

end QueryFunctions
