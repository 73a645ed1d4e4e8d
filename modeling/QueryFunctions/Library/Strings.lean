import QueryFunctions.Function.Spec
import QueryFunctions.Unicode.Casing

/-! Functions on text. -/

namespace QueryFunctions.Library

/-! ### Text -/

/-- The words of a text: its longest stretches without blanks. The word being read is kept
last character first. -/
def wordsFrom (word : List Char) : List Char → List (List Char)
  | [] => if word.isEmpty then [] else [word.reverse]
  | c :: cs =>
    if Unicode.isBlank c then
      if word.isEmpty then wordsFrom [] cs else word.reverse :: wordsFrom [] cs
    else wordsFrom (c :: word) cs

def words (text : List Char) : List (List Char) := wordsFrom [] text

/-- The words with one space between them. -/
def normalizeSpace (text : List Char) : List Char := [' '].intercalate (words text)

/-- The character that stands for another one: where `source` holds it first, `target` tells
what it becomes. It vanishes where `target` is too short. -/
def translateChar (source target : List Char) (c : Char) : Option Char :=
  match source.idxOf? c with
  | some index => target[index]?
  | none => some c

def translate (text source target : List Char) : List Char :=
  text.filterMap (translateChar source target)

/-- The texts before and after the first place where `needle` stands. -/
def cutAtFirst? (needle : List Char) : List Char → Option (List Char × List Char)
  | [] => if needle.isEmpty then some ([], []) else none
  | c :: cs =>
    if needle.isPrefixOf (c :: cs) then some ([], (c :: cs).drop needle.length)
    else (cutAtFirst? needle cs).map fun (before, after) => (c :: before, after)

/-- The text before the first place where `needle` stands; there is none if `needle` is
empty. -/
def substringBefore (text needle : List Char) : List Char :=
  if needle.isEmpty then [] else ((cutAtFirst? needle text).map (·.1)).getD []

/-- The text after the first place where `needle` stands; there is none if `needle` is
empty. -/
def substringAfter (text needle : List Char) : List Char :=
  if needle.isEmpty then [] else ((cutAtFirst? needle text).map (·.2)).getD []

/-! ### Bodies -/

def yieldText (text : List Char) : Run Json := pure (.string (String.ofList text))

def concatPart (v : Json) : Option String :=
  match v with
  | .null => none
  | v => some v.toText

/-- Joins the texts of all values; null and expressions add nothing. -/
def concat : Body := fun _ args =>
  pure (.string (String.join ((args.filterMap Argument.value?).filterMap concatPart)))

def upperCase : Body := fun _ args => yieldText ((textAt args 0).toList.flatMap Unicode.toUpper)

def lowerCase : Body := fun _ args => yieldText ((textAt args 0).toList.flatMap Unicode.toLower)

def normalizeSpaceBody : Body := fun _ args => yieldText (normalizeSpace (textAt args 0).toList)

def translateBody : Body := fun _ args =>
  yieldText (translate (textAt args 0).toList (textAt args 1).toList (textAt args 2).toList)

def substringBeforeBody : Body := fun _ args =>
  yieldText (substringBefore (textAt args 0).toList (textAt args 1).toList)

def substringAfterBody : Body := fun _ args =>
  yieldText (substringAfter (textAt args 0).toList (textAt args 1).toList)

end QueryFunctions.Library
