/-! Binary floating point numbers of 64 bits. The magnitude of a number is kept as its 63
lower bits, whose order is the order of the values. Every finite value is a whole multiple
of the least positive one, the unit; so arithmetic is done exactly on units, as natural
numbers or quotients of them, and rounded once. -/

namespace QueryFunctions

/-- A floating point number of 64 bits: its sign and the bits below. -/
structure Binary64 where
  negative : Bool
  magnitude : Nat
  magnitude_lt : magnitude < 0x8000000000000000 := by decide
  deriving DecidableEq

namespace Binary64

/-- The bits of the infinite magnitude; above it lie those that are no numbers. -/
def infiniteMagnitude : Nat := 0x7FF0000000000000

def signBit : Nat := 0x8000000000000000

/-- The bit above the fraction, which the fractions of all but the least numbers have without
its being kept. -/
def hiddenBit : Nat := 0x10000000000000

theorem infiniteMagnitude_lt : infiniteMagnitude < signBit := by decide

/-- Whether a number is neither infinite nor no number. -/
def isFinite (x : Binary64) : Bool := x.magnitude < infiniteMagnitude

def isNaN (x : Binary64) : Bool := infiniteMagnitude < x.magnitude

/-! ### Bits -/

def ofBits (bits : Nat) : Binary64 :=
  ⟨bits / signBit % 2 = 1, bits % signBit, Nat.mod_lt _ (by decide)⟩

def toBits (x : Binary64) : Nat := (if x.negative then signBit else 0) + x.magnitude

/-- What stands for the value of something that has none. -/
def nan : Binary64 := ⟨false, 0x7FF8000000000000, by decide⟩

def zero : Binary64 := ⟨false, 0, by decide⟩

def neg (x : Binary64) : Binary64 := ⟨!x.negative, x.magnitude, x.magnitude_lt⟩

/-! ### Values in units -/

def unitsPerOne : Nat := 1 <<< 1074

/-- The finite magnitude with the given bits, in units. The upper 11 bits are the exponent
and the lower 52 the fraction; numbers with the least exponent have no hidden bit. -/
def unitsOf (magnitude : Nat) : Nat :=
  let fraction := magnitude % hiddenBit
  match magnitude / hiddenBit with
  | 0 => fraction
  | exponent + 1 => (hiddenBit + fraction) <<< exponent

/-- The value of a finite number in units. -/
def units (x : Binary64) : Int :=
  if x.negative then -(unitsOf x.magnitude : Int) else unitsOf x.magnitude

/-! ### Rounding -/

/-- The natural number nearest to a quotient; of two that are equally near, the even one. -/
def roundQuotient (num den : Nat) : Nat :=
  let quotient := num / den
  let twice := 2 * (num % den)
  if twice < den then quotient
  else if den < twice then quotient + 1
  else if quotient % 2 = 0 then quotient else quotient + 1

/-- The bits of the magnitude nearest to `num / den` units. The exponent leaves 53 bits; a
fraction that rounds up to the next power of two carries into it. -/
def roundUnits (num den : Nat) : Nat :=
  let exponent := Nat.log2 (num / den) - 52
  min (exponent * hiddenBit + roundQuotient num (den <<< exponent)) infiniteMagnitude

/-- The number with the given sign that is nearest to `num / den` units. -/
def ofUnits (negative : Bool) (num den : Nat) : Binary64 :=
  ⟨negative, roundUnits num den, Nat.lt_of_le_of_lt (Nat.min_le_right ..) infiniteMagnitude_lt⟩

/-- The number nearest to an integer. -/
def ofInt (n : Int) : Binary64 := ofUnits (n < 0) (n.natAbs * unitsPerOne) 1

/-! ### Arithmetic -/

def infinity (negative : Bool) : Binary64 := ⟨negative, infiniteMagnitude, infiniteMagnitude_lt⟩

def isZero (x : Binary64) : Bool := x.magnitude = 0

/-- The sum. A sum of zero is negative only if both terms are. -/
def add (x y : Binary64) : Binary64 :=
  if x.isNaN || y.isNaN then nan
  else if !x.isFinite then
    if !y.isFinite && x.negative != y.negative then nan else x
  else if !y.isFinite then y
  else
    let sum := x.units + y.units
    let negative := if sum = 0 then x.negative && y.negative else sum < 0
    ofUnits negative sum.natAbs 1

def sub (x y : Binary64) : Binary64 := add x y.neg

/-- The product. An infinity times zero is no number. -/
def mul (x y : Binary64) : Binary64 :=
  let negative := x.negative != y.negative
  if x.isNaN || y.isNaN then nan
  else if !x.isFinite || !y.isFinite then
    if x.isZero || y.isZero then nan else infinity negative
  else ofUnits negative (unitsOf x.magnitude * unitsOf y.magnitude) unitsPerOne

/-- The quotient. Other numbers than zero over zero are infinite. -/
def div (x y : Binary64) : Binary64 :=
  let negative := x.negative != y.negative
  if x.isNaN || y.isNaN then nan
  else if !x.isFinite then
    if !y.isFinite then nan else infinity negative
  else if !y.isFinite then ⟨negative, 0, by decide⟩
  else if y.isZero then
    if x.isZero then nan else infinity negative
  else ofUnits negative (unitsOf x.magnitude * unitsPerOne) (unitsOf y.magnitude)

/-! ### Integers and order -/

/-- The integer that a finite number is, if it is one. -/
def toInt? (x : Binary64) : Option Int :=
  let units := unitsOf x.magnitude
  if x.isFinite && units % unitsPerOne = 0 then
    some (if x.negative then -(units / unitsPerOne : Int) else units / unitsPerOne)
  else none

/-- The rank of a number in the total order: negative numbers come before positive ones, also
among the zeros, and what is no number lies beyond the infinity of its sign. -/
def rank (x : Binary64) : Int := if x.negative then -(x.magnitude : Int) - 1 else x.magnitude

end Binary64

end QueryFunctions
