import QueryFunctions.Unicode.Property
import QueryFunctions.Unicode.TextTable

/-! The character classes that the library itself asks about: blanks, word characters and
digits, by which patterns go, and letters and readable characters, by which names and texts
are judged. -/

namespace QueryFunctions.Unicode

/-- The characters with the property `White_Space`. -/
def blank : CodeSet :=
  ⟨[9, 14, 32, 33, 133, 134, 160, 161, 5760, 5761, 8192, 8203, 8232, 8234, 8239, 8240, 8287,
    8288, 12288, 12289]⟩

/-- Whether a character separates words. -/
def isBlank (c : Char) : Bool := blank.has c

/-- The decimal digits of all scripts. -/
def digit : CodeSet := categories ["nd"]

/-- Letters, marks, decimal digits, connectors and the two joiners: the characters that make
up words. -/
def word : CodeSet :=
  let named := ["alphabetic", "joincontrol"].filterMap binary?
  CodeSet.unions (categories ["mc", "me", "mn", "nd", "pc"] :: named)

def wordIndex : StepMap Bool := word.index

def isWord (c : Char) : Bool := wordIndex.find c.toNat

/-- The ASCII part of the word characters. -/
def asciiWord : CodeSet :=
  CodeSet.unions [.ofRange 48 57, .ofRange 65 90, .single 95, .ofRange 97 122]

/-- Whether a character is an ASCII letter, digit or underscore. -/
def isAsciiWord (c : Char) : Bool := asciiWord.has c

/-- A set of the characters of texts, in a form for quick lookups. -/
def textIndex (name : String) : StepMap Bool := ((lookupSet? textTable name).getD .empty).index

def alphabeticIndex : StepMap Bool := textIndex "alphabetic"

/-- Whether a character has the property `Alphabetic`. -/
def isAlphabetic (c : Char) : Bool := alphabeticIndex.find c.toNat

/-- The characters of the number categories, in a form for quick lookups. -/
def numericIndex : StepMap Bool := textIndex "numeric"

/-- Whether a character is alphabetic or belongs to a number category. -/
def isAlphanumeric (c : Char) : Bool := isAlphabetic c || numericIndex.find c.toNat

/-- Combining characters, which are unreadable on their own. -/
def combiningIndex : StepMap Bool := textIndex "combining"

/-- Controls, formats, private and unassigned characters and all separators but the space. -/
def unprintableIndex : StepMap Bool := textIndex "unprintable"

/-- Whether a character is shown as itself in quoted text. -/
def isReadable (c : Char) : Bool :=
  !combiningIndex.find c.toNat && !unprintableIndex.find c.toNat

end QueryFunctions.Unicode
