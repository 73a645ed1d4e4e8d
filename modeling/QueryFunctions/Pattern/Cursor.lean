import QueryFunctions.Pattern.Tree
import QueryFunctions.Unicode.Classes

/-! A place in the text of a pattern, and the steps that reading takes from it. In verbose
mode blanks and comments between the parts of a pattern are passed over. -/

namespace QueryFunctions.Pattern

open Unicode (isBlank)

/-- The rest of a pattern; `left` is its length. -/
structure Cursor where
  left : Nat
  rest : List Char
  deriving DecidableEq, Repr

namespace Cursor

def ofChars (cs : List Char) : Cursor := ⟨cs.length, cs⟩

def atEnd (c : Cursor) : Bool := c.rest.isEmpty

def drop (c : Cursor) (n : Nat) : Cursor := ⟨c.left - n, c.rest.drop n⟩

def next (c : Cursor) : Cursor := c.drop 1

/-- The empty stretch here. -/
def here (c : Cursor) : Span := .point c.left

def charSpan (c : Cursor) : Span := ⟨c.left, c.next.left⟩

/-- Passes over blanks and comments. The flag tells that a comment is being passed. -/
def skipFrom : Bool → Nat → List Char → Cursor
  | _, left, [] => ⟨left, []⟩
  | true, left, c :: cs => skipFrom (c != '\n') (left - 1) cs
  | false, left, c :: cs =>
    if isBlank c then skipFrom false (left - 1) cs
    else if c = '#' then skipFrom true (left - 1) cs
    else ⟨left, c :: cs⟩

/-- Passes over blanks and comments in verbose mode. -/
def skip (verbose : Bool) (c : Cursor) : Cursor :=
  if verbose then skipFrom false c.left c.rest else c

/-- The cursor after the next character and what verbose mode passes over. -/
def advance (verbose : Bool) (c : Cursor) : Cursor := c.next.skip verbose

/-- Passes over blanks, which counts allow in every mode. -/
def skipBlanks (c : Cursor) : Cursor := c.drop (c.rest.takeWhile isBlank).length

/-- The next characters that satisfy `p`, and the cursor after them. -/
def gatherFrom (verbose : Bool) (p : Char → Bool) : Nat → Cursor → List Char × Cursor
  | 0, c => ([], c)
  | fuel + 1, c =>
    match c.rest with
    | [] => ([], c)
    | x :: _ =>
      if p x then
        let (xs, after) := gatherFrom verbose p fuel (c.advance verbose)
        (x :: xs, after)
      else ([], c)

def gather (verbose : Bool) (p : Char → Bool) (c : Cursor) : List Char × Cursor :=
  gatherFrom verbose p c.left c

/-- The first character that is neither blank nor the first hash sign. The flag tells that a
hash sign has been met. Where there is none, the answer is `last`. -/
def peekFrom (last : Option Char) : Bool → List Char → Option Char
  | _, [] => last
  | hash, c :: cs =>
    if isBlank c then peekFrom last hash cs
    else if c = '#' && !hash then peekFrom last true cs
    else some c

/-- The character after the next one, with blanks and a hash sign passed over in verbose
mode. -/
def peek (verbose : Bool) (c : Cursor) : Option Char :=
  let after := c.rest.drop 1
  if verbose && !c.atEnd then peekFrom after.head? false after else after.head?

end Cursor

/-! ### Numbers -/

/-- The value of a digit in any base up to 36. -/
def digitValue (c : Char) : Nat :=
  if '0' ≤ c && c ≤ '9' then c.toNat - '0'.toNat
  else if 'a' ≤ c && c ≤ 'z' then c.toNat - 'a'.toNat + 10
  else c.toNat - 'A'.toNat + 10

def valueOfDigits (base : Nat) (digits : List Char) : Nat :=
  digits.foldl (fun n c => n * base + digitValue c) 0

def isHexDigit (c : Char) : Bool :=
  c.isDigit || ('a' ≤ c && c ≤ 'f') || ('A' ≤ c && c ≤ 'F')

def charOfCode? (n : Nat) : Option Char :=
  if n.isValidChar then some (Char.ofNat n) else none

def maxCount : Nat := 4294967295

/-- Reads a decimal with blanks around it. -/
def readDecimal (verbose : Bool) (c : Cursor) : Except Fault Nat × Cursor :=
  let start := c.skipBlanks
  let (digits, stop) := start.gather verbose Char.isDigit
  let after := (stop.gather verbose isBlank).2
  let span : Span := ⟨start.left, stop.left⟩
  let value := valueOfDigits 10 digits
  if digits.isEmpty then (refuse .countEmpty span, after)
  else if value > maxCount then (refuse .decimalInvalid span, after)
  else (.ok value, after)

end QueryFunctions.Pattern
