import QueryFunctions.Unicode.CasingTable
import QueryFunctions.Unicode.Packed

/-! Full case mapping of single characters. A mapping may yield several characters: the
upper case of `ß` is `SS`. No context is looked at, so a final sigma is mapped like any
other. -/

namespace QueryFunctions.Unicode

/-- The mapping of a packed table, in a form for quick lookups. -/
def casingIndex (table : List String) : StepMap (Option (List Char)) :=
  .ofSteps none ((unpackEntries table).flatMap fun (code, mapped) =>
    [(code, some (mapped.map Char.ofNat)), (code + 1, none)])

def upperIndex : StepMap (Option (List Char)) := casingIndex upperTable

def lowerIndex : StepMap (Option (List Char)) := casingIndex lowerTable

/-- The upper case of a character, which is the character itself if it has none. -/
def toUpper (c : Char) : List Char := (upperIndex.find c.toNat).getD [c]

/-- The lower case of a character, which is the character itself if it has none. -/
def toLower (c : Char) : List Char := (lowerIndex.find c.toNat).getD [c]

end QueryFunctions.Unicode
