import QueryFunctions.Text.CodeSet

/-! The compact text form of the character tables. A text is a sequence of natural
numbers in base 26: upper case letters are leading digits and a lower case letter
is the last digit of a number. It is cut into lines at arbitrary places. -/

namespace QueryFunctions.Unicode

/-- Reads the numbers of a packed text; `acc` is the value of the leading digits so far. -/
def unpackFrom (acc : Nat) : List Char → List Nat
  | [] => []
  | c :: cs =>
    if 'a' ≤ c then (acc * 26 + (c.toNat - 'a'.toNat)) :: unpackFrom 0 cs
    else unpackFrom (acc * 26 + (c.toNat - 'A'.toNat)) cs

def unpack (lines : List String) : List Nat := unpackFrom 0 (lines.flatMap String.toList)

/-- Running sums, starting from `base`. -/
def sums (base : Nat) : List Nat → List Nat
  | [] => []
  | n :: ns => (base + n) :: sums (base + n) ns

/-- The set whose packed text lists the distances between its flips. -/
def unpackSet (lines : List String) : CodeSet := ⟨sums 0 (unpack lines)⟩

/-- The signed distance that a number stands for: 0, -1, 1, -2, 2, and so on. -/
def signedShift (base n : Nat) : Nat :=
  if n % 2 = 0 then base + n / 2 else base - (n + 1) / 2

/-- Reads entries of the form: distance from the entry before, count, that many signed
distances. The fuel bounds the number of entries. -/
def entriesFrom : Nat → Nat → List Nat → List (Nat × List Nat)
  | fuel + 1, base, step :: count :: rest =>
    let code := base + step
    (code, (rest.take count).map (signedShift code)) ::
      entriesFrom fuel code (rest.drop count)
  | _, _, _ => []

/-- The entries of a packed map from code points to lists of code points. -/
def unpackEntries (lines : List String) : List (Nat × List Nat) :=
  let numbers := unpack lines
  entriesFrom numbers.length 0 numbers

/-- The packed set with the given name, if the table has one. -/
def lookupSet? (table : List (String × List String)) (name : String) :
    Option CodeSet :=
  (table.lookup name).map unpackSet

end QueryFunctions.Unicode
