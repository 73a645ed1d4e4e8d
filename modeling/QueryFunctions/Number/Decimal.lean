import QueryFunctions.Number.Binary64

/-! Decimal text of floating point numbers. A number is written with the fewest digits that
round back to it; of the numbers with so few digits the nearest one is taken. How the digits
are laid out is a matter of the two formats at the end. -/

namespace QueryFunctions

/-- A positive decimal `0.d₁d₂… × 10 ^ point`, given by its digits as a number and the place
of the point before the first of them. -/
structure Decimal where
  digits : Nat
  point : Int
  deriving DecidableEq, Repr

namespace Decimal

def digitCount (n : Nat) : Nat := (Nat.toDigits 10 n).length

def text (n : Nat) : String := String.ofList (Nat.toDigits 10 n)

/-- The power of ten as numerator and denominator. -/
def pow10 (exponent : Int) : Nat × Nat :=
  (Nat.pow 10 exponent.toNat, Nat.pow 10 (-exponent).toNat)

/-- The bits of the magnitude nearest to `digits * 10 ^ exponent`. -/
def round (digits : Nat) (exponent : Int) : Nat :=
  let (num, den) := pow10 exponent
  Binary64.roundUnits (digits * num * Binary64.unitsPerOne) den

/-- Drops zeros at the end of the digits. The fuel bounds their number. -/
def trim : Nat → Nat → Nat
  | 0, n => n
  | fuel + 1, n => if n % 10 = 0 then trim fuel (n / 10) else n

/-- The decimal exponent of a positive value in units: the greatest `e` with `10 ^ e` at most
the value. The search runs down from an upper bound; the fuel bounds its length. -/
def exponentFrom (units : Nat) : Nat → Int → Int
  | 0, e => e
  | fuel + 1, e =>
    let (num, den) := pow10 e
    if num * Binary64.unitsPerOne ≤ units * den then e else exponentFrom units fuel (e - 1)

/-- An upper bound for the decimal exponent, from the length of the value in bits. -/
def exponentBound (units : Nat) : Int := ((Nat.log2 units : Int) - 1073) * 30103 / 100000 + 1

def exponentOf (units : Nat) : Int := exponentFrom units 4 (exponentBound units)

/-- The decimal with `count` digits that rounds to the magnitude and is nearest to it, where
`e` is its decimal exponent. The candidates are the two neighbours of the value. -/
def withDigits? (magnitude : Nat) (e : Int) (count : Nat) : Option (Nat × Int) :=
  let units := Binary64.unitsOf magnitude
  let exponent := e + 1 - count
  let (num, den) := pow10 exponent
  let step := num * Binary64.unitsPerOne
  let below := units * den / step
  let rest := units * den % step
  let lower := if round below exponent = magnitude then some (below, exponent) else none
  let upper := if round (below + 1) exponent = magnitude then some (below + 1, exponent) else none
  match lower, upper with
  | some lower, some upper =>
    if 2 * rest < step || (2 * rest = step && below % 2 = 0) then some lower else some upper
  | some lower, none => some lower
  | none, upper => upper

/-- Tries digit counts from `count` on. The fuel bounds the attempts. -/
def shortestFrom (magnitude : Nat) (e : Int) : Nat → Nat → Nat × Int
  | 0, _ => (0, 0)
  | fuel + 1, count =>
    match withDigits? magnitude e count with
    | some found => found
    | none => shortestFrom magnitude e fuel (count + 1)

/-- The shortest decimal of a positive finite magnitude. -/
def shortest (magnitude : Nat) : Decimal :=
  let e := exponentOf (Binary64.unitsOf magnitude)
  let (digits, exponent) := shortestFrom magnitude e 17 1
  ⟨trim 17 digits, exponent + digitCount digits⟩

/-! ### Layout -/

/-- The digits with the point among them. -/
def positional (d : Decimal) (tail : String) : String :=
  let digits := text d.digits
  let count : Int := digits.length
  if d.point ≤ 0 then "0." ++ "".pushn '0' (-d.point).toNat ++ digits
  else if count ≤ d.point then digits ++ "".pushn '0' (d.point - count).toNat ++ tail
  else
    let chars := digits.toList
    String.ofList (chars.take d.point.toNat) ++ "." ++ String.ofList (chars.drop d.point.toNat)

/-- The digits with the point after the first and a power of ten. -/
def scientific (d : Decimal) : String :=
  let chars := (text d.digits).toList
  let fraction := chars.drop 1
  let exponent := d.point - 1
  let mantissa :=
    if fraction.isEmpty then String.ofList chars
    else String.ofList (chars.take 1) ++ "." ++ String.ofList fraction
  mantissa ++ "e" ++ (if exponent < 0 then "-" else "+") ++ toString exponent.natAbs

end Decimal

namespace Binary64

/-- How numbers are written: the powers of ten that the positional form is used for, what
follows a whole number in it, and the texts of zero, infinity and what is no number. -/
structure Format where
  isPositional : Int → Bool
  wholeTail : String

def Format.writeMagnitude (format : Format) (magnitude : Nat) : String :=
  if magnitude = 0 then "0" ++ format.wholeTail
  else
    let d := Decimal.shortest magnitude
    if format.isPositional (d.point - 1) then d.positional format.wholeTail else d.scientific

def Format.write (format : Format) (x : Binary64) : String :=
  if x.isNaN then "NaN"
  else
    let body := if x.isFinite then format.writeMagnitude x.magnitude else "inf"
    if x.negative then "-" ++ body else body

/-- JSON text: positional from `10 ^ -5` up to below `10 ^ 16`, and always with a fraction
there. -/
def jsonFormat : Format := ⟨fun exponent => -5 ≤ exponent && exponent ≤ 15, ".0"⟩

/-- Plain text: always positional, and whole numbers without a fraction. -/
def plainFormat : Format := ⟨fun _ => true, ""⟩

end Binary64

end QueryFunctions
