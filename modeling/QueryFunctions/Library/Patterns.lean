import QueryFunctions.Function.Spec
import QueryFunctions.Pattern.Template

/-! Functions with patterns: whether a text holds a match, the text cut at the matches, and
the text with the matches replaced. -/

namespace QueryFunctions.Library

open Pattern

/-- Compiles a pattern for use on a text. The flags are looked at first; the pattern is
refused at last if it matches the empty text anywhere in the text. -/
def bindPattern (limits : Limits) (pattern flags text : String) : Run Compiled := do
  let flags ← Run.ofPattern (FlagSet.parse flags)
  let compiled ← Run.ofPattern (compile flags limits pattern)
  Run.report (.compiled pattern flags)
  if ← Run.ofPattern (guardRefuses flags limits pattern text) then do
    Run.report (.matchesEmptyText pattern)
    Run.ofPattern (.error .matchesEmptyText)
  else pure compiled

/-- The pattern at a position with the flags at the next one. -/
def patternAt (host : Host) (args : List Argument) (index : Nat) (text : String) : Run Compiled :=
  bindPattern host.limits (textAt args index) (textAt args (index + 1)) text

/-- Whether the pattern matches somewhere in the text. -/
def matchesBody : Body := fun host args => do
  let text := textAt args 0
  let compiled ← patternAt host args 1 text
  pure (.bool (!(compiled.segments text).rest.isEmpty))

def gapTexts (segments : Segmentation) : List String := segments.gaps.map String.ofList

/-- The pattern of blanks, as many as there are. -/
def blanks : Expr := .repeated 1 none true (.chars Unicode.blank)

/-- The stretches of a text between blanks, empty ones left out. -/
def blankTokens (text : String) : List String :=
  (gapTexts (blanks.segments 0 text.toList)).filter (!·.isEmpty)

/-- The text cut at the matches of the pattern, with all pieces kept; without a pattern it is
cut at blanks and empty pieces are left out. -/
def tokenize : Body := fun host args => do
  let text := textAt args 0
  if (textAt? args 1).isSome then do
    let compiled ← patternAt host args 1 text
    pure (Json.ofStrings (gapTexts (compiled.segments text)))
  else pure (Json.ofStrings (blankTokens text))

/-- The text with every match of the pattern replaced by the template. -/
def replace : Body := fun host args => do
  let text := textAt args 0
  let compiled ← bindPattern host.limits (textAt args 1) (textAt args 3) text
  let template ← Run.ofPattern (compiled.template (textAt args 2))
  pure (.string (compiled.replace text template))

end QueryFunctions.Library
