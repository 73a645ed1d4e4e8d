import QueryFunctions.Json.Value

/-! The numbers of JSON text. A numeral without fraction and exponent is an integer if it
fits in 64 bits. Any other is a floating point number: its digits, as many as fit in 64 bits,
are taken to the nearest one and then multiplied or divided by a power of ten, which rounds
once more. -/

namespace QueryFunctions

structure Numeral where
  negative : Bool
  whole : List Char
  fraction : Option (List Char)
  exponent : Option (Bool × List Char)
  deriving DecidableEq

namespace Numeral

/-- Takes the run of digits at the start of a text, which must not be empty. -/
def scanDigits? (cs : List Char) : Option (List Char × List Char) :=
  match cs.span Char.isDigit with
  | ([], _) => none
  | (digits, rest) => some (digits, rest)

/-- Takes an exponent, if one is there. -/
def scanExponent? : List Char → Option (Option (Bool × List Char) × List Char)
  | c :: cs =>
    if c = 'e' || c = 'E' then do
      let (negative, cs) :=
        match cs with
        | '-' :: cs => (true, cs)
        | '+' :: cs => (false, cs)
        | cs => (false, cs)
      let (digits, rest) ← scanDigits? cs
      some (some (negative, digits), rest)
    else some (none, c :: cs)
  | [] => some (none, [])

/-- Takes a fraction, if one is there. -/
def scanFraction? : List Char → Option (Option (List Char) × List Char)
  | '.' :: cs => (scanDigits? cs).map fun (digits, rest) => (some digits, rest)
  | cs => some (none, cs)

/-- Takes a numeral from the start of a text. A zero is followed by no other digit of the
whole part. -/
def scan? (cs : List Char) : Option (Numeral × List Char) := do
  let (negative, cs) :=
    match cs with
    | '-' :: cs => (true, cs)
    | cs => (false, cs)
  let (whole, cs) ← scanDigits? cs
  if whole.head? = some '0' && whole.length ≠ 1 then none
  else
    let (fraction, cs) ← scanFraction? cs
    let (exponent, cs) ← scanExponent? cs
    some (⟨negative, whole, fraction, exponent⟩, cs)

/-! ### Values -/

def digitOf (c : Char) : Nat := c.toNat - '0'.toNat

/-- Appends digits to a number while it stays at most `limit`. The second number counts the
digits that were left. -/
def accumulate (limit : Nat) : Nat → List Char → Nat × Nat
  | n, [] => (n, 0)
  | n, c :: cs =>
    let next := n * 10 + digitOf c
    if next ≤ limit then accumulate limit next cs else (n, cs.length + 1)

/-- The nearest number to a power of ten. -/
def powerOfTen (exponent : Nat) : Binary64 :=
  .ofUnits false (Nat.pow 10 exponent * Binary64.unitsPerOne) 1

/-- The greatest power of ten that is a number. -/
def maxPower : Nat := 308

/-- Multiplies by a power of ten, if the result is finite. Divisions by greater powers than
there are numbers for go in steps, of which the second one leaves nothing. -/
def scale? : Nat → Binary64 → Int → Option Binary64
  | 0, x, _ => some x
  | fuel + 1, x, exponent =>
    if exponent.natAbs ≤ maxPower then
      if 0 ≤ exponent then
        let y := x.mul (powerOfTen exponent.natAbs)
        if y.isFinite then some y else none
      else some (x.div (powerOfTen exponent.natAbs))
    else if x.isZero then some x
    else if 0 ≤ exponent then none
    else scale? fuel (x.div (powerOfTen maxPower)) (exponent + maxPower)

/-- The number with the given sign and digits times a power of ten. -/
def toFloat? (negative : Bool) (digits : Nat) (exponent : Int) : Option JsonNumber := do
  let x ← scale? 4 (.ofUnits false (digits * Binary64.unitsPerOne) 1) exponent
  JsonNumber.ofFloat? (if negative then x.neg else x)

def maxDigits : Nat := 18446744073709551615

def maxNegativeDigits : Nat := 9223372036854775808

def maxExponent : Nat := 2147483647

/-- The value of a numeral, if it is not too large. -/
def value? (n : Numeral) : Option JsonNumber :=
  let (whole, left) := accumulate maxDigits 0 n.whole
  match n.fraction, n.exponent, left with
  | none, none, 0 =>
    if !n.negative then some (.int whole)
    else if whole = 0 || whole > maxNegativeDigits then toFloat? true whole 0
    else some (.int (-whole))
  | fraction, exponent, left =>
    let fraction := fraction.getD []
    let (digits, unread) := accumulate maxDigits whole fraction
    let base : Int := (left : Int) - (fraction.length - unread : Nat)
    match exponent with
    | none => toFloat? n.negative digits base
    | some (below, exponent) =>
      match accumulate maxExponent 0 exponent with
      | (exponent, 0) =>
        toFloat? n.negative digits (if below then base - exponent else base + exponent)
      | _ => if digits = 0 || below then toFloat? n.negative 0 0 else none

end Numeral

end QueryFunctions
