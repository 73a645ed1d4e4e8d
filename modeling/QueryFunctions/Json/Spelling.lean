import QueryFunctions.Json.Numeral

/-! JSON text. Reading goes in two steps: first to the spelling of a value, where the fields of
an object are kept in their order with all repetitions and numbers are not yet evaluated,
then to the value. Readers of calls look at the spelling, since a repeated field is an error
there and an unknown one is passed over whatever it holds. -/

namespace QueryFunctions

/-- How a value is spelt. A string is absent where its escapes do not make characters. -/
inductive Spelling where
  | null
  | bool (b : Bool)
  | number (n : Numeral)
  | string (s : Option String)
  | array (items : List Spelling)
  | object (fields : List (Option String × Spelling))

namespace Spelling

/-! ### Scanning -/

/-- Whether a character may stand between the parts of a text. -/
def isSpace (c : Char) : Bool := c = ' ' || c = '\n' || c = '\t' || c = '\r'

def skipSpace (cs : List Char) : List Char := cs.dropWhile isSpace

def hexValue? (c : Char) : Option Nat :=
  if c.isDigit then some (c.toNat - '0'.toNat)
  else if 'a' ≤ c && c ≤ 'f' then some (c.toNat - 'a'.toNat + 10)
  else if 'A' ≤ c && c ≤ 'F' then some (c.toNat - 'A'.toNat + 10)
  else none

/-- The character for a one letter escape. -/
def escaped? (c : Char) : Option Char :=
  [('"', '"'), ('\\', '\\'), ('/', '/'), ('b', '\x08'), ('f', '\x0c'), ('n', '\n'), ('r', '\r'),
    ('t', '\t')].lookup c

/-- The parts of a string: characters, and code units of 16 bits from escapes. -/
inductive Part where
  | char (c : Char)
  | unit (n : Nat)

/-- Scans a string from after its opening quote. -/
def scanString? : List Char → Option (List Part × List Char)
  | '"' :: cs => some ([], cs)
  | '\\' :: 'u' :: a :: b :: c :: d :: cs => do
    let a ← hexValue? a
    let b ← hexValue? b
    let c ← hexValue? c
    let d ← hexValue? d
    let (parts, rest) ← scanString? cs
    some (.unit (((a * 16 + b) * 16 + c) * 16 + d) :: parts, rest)
  | '\\' :: c :: cs => do
    let c ← escaped? c
    let (parts, rest) ← scanString? cs
    some (.char c :: parts, rest)
  | c :: cs =>
    if c.toNat < 32 || c = '\\' then none
    else do
      let (parts, rest) ← scanString? cs
      some (.char c :: parts, rest)
  | [] => none

def isHighUnit (n : Nat) : Bool := 0xD800 ≤ n && n < 0xDC00

def isLowUnit (n : Nat) : Bool := 0xDC00 ≤ n && n < 0xE000

/-- The characters of a string, if its high and low units come in pairs. -/
def charsOfParts? : List Part → Option (List Char)
  | [] => some []
  | .char c :: parts => (charsOfParts? parts).map (c :: ·)
  | .unit high :: .unit low :: parts =>
    if isHighUnit high then
      if isLowUnit low then
        let code := 0x10000 + (high - 0xD800) * 1024 + (low - 0xDC00)
        (charsOfParts? parts).map (Char.ofNat code :: ·)
      else none
    else if isLowUnit high then none
    else (charsOfParts? (.unit low :: parts)).map (Char.ofNat high :: ·)
  | .unit n :: parts =>
    if isHighUnit n || isLowUnit n then none
    else (charsOfParts? parts).map (Char.ofNat n :: ·)

/-- Scans a string and puts its characters together. -/
def scanText? (cs : List Char) : Option (Option String × List Char) :=
  (scanString? cs).map fun (parts, rest) => ((charsOfParts? parts).map String.ofList, rest)

/-- Scans elements between commas up to the closing character. The fuel bounds their
number. -/
def scanElements? {α : Type} (close : Char) (element : List Char → Option (α × List Char)) :
    Nat → List Char → Option (List α × List Char)
  | 0, _ => none
  | fuel + 1, cs => do
    let (first, cs) ← element (skipSpace cs)
    match skipSpace cs with
    | c :: cs =>
      if c = close then some ([first], cs)
      else if c = ',' then do
        let (others, rest) ← scanElements? close element fuel cs
        some (first :: others, rest)
      else none
    | [] => none

/-- Scans elements from after the opening character. There may be none. -/
def scanSequence? {α : Type} (close : Char) (element : List Char → Option (α × List Char))
    (cs : List Char) : Option (List α × List Char) :=
  match skipSpace cs with
  | c :: rest => if c = close then some ([], rest) else scanElements? close element cs.length cs
  | [] => none

/-- Scans a field of an object, given how values are scanned. -/
def scanField? (value : List Char → Option (Spelling × List Char)) :
    List Char → Option ((Option String × Spelling) × List Char)
  | '"' :: cs => do
    let (name, cs) ← scanText? cs
    match skipSpace cs with
    | ':' :: cs => do
      let (v, rest) ← value (skipSpace cs)
      some ((name, v), rest)
    | _ => none
  | _ => none

/-- Scans a value. The fuel bounds the depth of nesting. -/
def scan? : Nat → List Char → Option (Spelling × List Char)
  | 0, _ => none
  | fuel + 1, cs =>
    match cs with
    | 'n' :: 'u' :: 'l' :: 'l' :: rest => some (.null, rest)
    | 't' :: 'r' :: 'u' :: 'e' :: rest => some (.bool true, rest)
    | 'f' :: 'a' :: 'l' :: 's' :: 'e' :: rest => some (.bool false, rest)
    | '"' :: cs => (scanText? cs).map fun (s, rest) => (.string s, rest)
    | '[' :: cs =>
      (scanSequence? ']' (scan? fuel) cs).map fun (items, rest) => (.array items, rest)
    | '{' :: cs =>
      (scanSequence? '}' (scanField? (scan? fuel)) cs).map fun (fields, rest) =>
        (.object fields, rest)
    | cs => (Numeral.scan? cs).map fun (n, rest) => (.number n, rest)

def parse? (text : String) : Option Spelling :=
  let cs := text.toList
  match scan? (cs.length + 1) (skipSpace cs) with
  | some (v, rest) => if (skipSpace rest).isEmpty then some v else none
  | none => none

/-! ### Values -/

mutual

/-- The value of a spelling, if arrays and objects are nested at most as deep as given. -/
def value? : Spelling → Nat → Option Json
  | .null, _ => some .null
  | .bool b, _ => some (.bool b)
  | .number n, _ => n.value?.map .number
  | .string s, _ => s.map .string
  | .array items, depth =>
    if depth = 0 then none else (values? items (depth - 1)).map .array
  | .object fields, depth =>
    if depth = 0 then none
    else (fieldValues? fields (depth - 1)).map fun fields => .object (Keyed.ofList fields)

def values? : List Spelling → Nat → Option (List Json)
  | [], _ => some []
  | item :: items, depth => do
    let first ← item.value? depth
    let rest ← values? items depth
    some (first :: rest)

def fieldValues? : List (Option String × Spelling) → Nat → Option (List (String × Json))
  | [], _ => some []
  | (name, field) :: fields, depth => do
    let name ← name
    let first ← field.value? depth
    let rest ← fieldValues? fields depth
    some ((name, first) :: rest)

end

end Spelling

/-- How deep arrays and objects may be nested in JSON text. -/
def Json.maxDepth : Nat := 127

def Json.parse? (text : String) : Option Json := do
  (← Spelling.parse? text).value? Json.maxDepth

end QueryFunctions
