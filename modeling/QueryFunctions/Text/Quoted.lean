import QueryFunctions.Unicode.Classes

/-! Text in quotes, in two forms: JSON strings, where control characters are escaped and all
else is written as it is, and text for logs, where whatever a reader could not make out is
given by its code. -/

namespace QueryFunctions

/-- The last digit of a number in base 16, in lower case. -/
def hexDigit (n : Nat) : Char := Nat.digitChar (n % 16)

def hexDigits (n : Nat) : List Char := Nat.toDigits 16 n

/-- A character within a JSON string. -/
def jsonEscape (c : Char) : List Char :=
  match c with
  | '"' => ['\\', '"']
  | '\\' => ['\\', '\\']
  | '\x08' => ['\\', 'b']
  | '\x0c' => ['\\', 'f']
  | '\n' => ['\\', 'n']
  | '\r' => ['\\', 'r']
  | '\t' => ['\\', 't']
  | c =>
    if c.toNat < 32 then ['\\', 'u', '0', '0', hexDigit (c.toNat / 16), hexDigit c.toNat]
    else [c]

def jsonQuote (s : String) : String :=
  String.ofList ('"' :: s.toList.flatMap jsonEscape ++ ['"'])

def logEscape (c : Char) : List Char :=
  match c with
  | '"' => ['\\', '"']
  | '\\' => ['\\', '\\']
  | '\x00' => ['\\', '0']
  | '\n' => ['\\', 'n']
  | '\r' => ['\\', 'r']
  | '\t' => ['\\', 't']
  | c =>
    if Unicode.isReadable c then [c]
    else ['\\', 'u', '{'] ++ hexDigits c.toNat ++ ['}']

def logQuote (s : String) : String :=
  String.ofList ('"' :: s.toList.flatMap logEscape ++ ['"'])

end QueryFunctions
