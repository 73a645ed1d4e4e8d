import QueryFunctions.Number.Decimal
import QueryFunctions.Text.Keyed
import QueryFunctions.Text.Quoted

/-! JSON values. Integers and floating point numbers are kept apart, and the fields of an
object are in the order of their names. -/

namespace QueryFunctions

/-- A number: an integer, or a floating point number that is finite. -/
inductive JsonNumber where
  | int (n : Int)
  | float (x : Binary64) (finite : x.isFinite = true)
  deriving DecidableEq

inductive Json where
  | null
  | bool (b : Bool)
  | number (n : JsonNumber)
  | string (s : String)
  | array (items : List Json)
  | object (fields : List (String × Json))

namespace JsonNumber

def text : JsonNumber → String
  | int n => toString n
  | float x _ => Binary64.jsonFormat.write x

/-- The nearest floating point number. -/
def toBinary64 : JsonNumber → Binary64
  | int n => .ofInt n
  | float x _ => x

/-- A floating point number as it is, if it is finite. -/
def ofFloat? (x : Binary64) : Option JsonNumber :=
  if finite : x.isFinite = true then some (.float x finite) else none

end JsonNumber

namespace Json

mutual

/-- The compact text of a value. -/
def text : Json → String
  | .null => "null"
  | .bool true => "true"
  | .bool false => "false"
  | .number n => n.text
  | .string s => jsonQuote s
  | .array items => "[" ++ ",".intercalate (texts items) ++ "]"
  | .object fields => "\x7b" ++ ",".intercalate (fieldTexts fields) ++ "\x7d"

def texts : List Json → List String
  | [] => []
  | item :: items => item.text :: texts items

def fieldTexts : List (String × Json) → List String
  | [] => []
  | (name, value) :: fields => (jsonQuote name ++ ":" ++ value.text) :: fieldTexts fields

end

def ofStrings (strings : List String) : Json := .array (strings.map .string)

/-- The greatest safe integer, `2 ^ 53 - 1`. Integers of at most this magnitude are floating point
numbers that no other integer is rounded to; `2 ^ 53` is one too, but `2 ^ 53 + 1` is rounded to
it. -/
def maxSafeInteger : Nat := 9007199254740991

/-- A floating point number as it is, or null where it is infinite or no number. -/
def ofFloat (x : Binary64) : Json :=
  match JsonNumber.ofFloat? x with
  | some n => .number n
  | none => .null

/-- The value of a floating point number: an integer where it is one and is safe, and null
where it is infinite or no number. -/
def ofBinary64 (x : Binary64) : Json :=
  match x.toInt? with
  | some n => if n.natAbs ≤ maxSafeInteger then .number (.int n) else ofFloat x
  | none => ofFloat x

/-- The text that a value is taken for where text is wanted: strings are taken as they are. -/
def toText : Json → String
  | .string s => s
  | v => v.text

/-- The floating point number that a value is taken for. -/
def toBinary64 : Json → Binary64
  | .number n => n.toBinary64
  | _ => .nan

/-- The items of an array; other values have none. -/
def toItems : Json → List Json
  | .array items => items
  | _ => []

/-- The order of two values as numbers. What is no number comes last. -/
def compareNumeric (a b : Json) : Ordering := compare a.toBinary64.rank b.toBinary64.rank

end Json

end QueryFunctions
