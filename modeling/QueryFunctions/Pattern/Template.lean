import QueryFunctions.Pattern.Compiled

/-! Replacement templates. A dollar sign with a number stands for a group by its number, one
with a name in braces for a group by its name, and a backslash makes the next character
stand for itself. A number takes in further digits only while it still is the number of a
group. -/

namespace QueryFunctions.Pattern

/-- A part of a template: text, or the text of a group. -/
inductive TemplatePart where
  | text (chars : List Char)
  | group (index : Nat)
  deriving DecidableEq, Repr

/-- A template. The texts in it are not empty and no two of them are neighbours. -/
structure Template where
  parts : List TemplatePart
  deriving DecidableEq, Repr

namespace Template

/-- Puts a character in front of a template. -/
def consChar (c : Char) : List TemplatePart → List TemplatePart
  | .text cs :: parts => .text (c :: cs) :: parts
  | parts => .text [c] :: parts

/-- What the reader of a template is in the middle of. A name is kept last character
first. -/
inductive Context where
  | plain
  | escape
  | dollar
  | name (read : List Char)
  | number (group : Nat)

/-- The number of the group with a name, the first one if there are several. -/
def groupNamed? (names : List (Option String)) (name : String) : Option Nat :=
  names.findIdx? (· = some name)

def digit? (c : Char) : Option Nat := if c.isDigit then some (c.toNat - '0'.toNat) else none

/-- Takes a character of plain text; `go` reads on. -/
def readPlain (c : Char) (go : Context → Except TemplateFault (List TemplatePart)) :
    Except TemplateFault (List TemplatePart) :=
  match c with
  | '\\' => go .escape
  | '$' => go .dollar
  | c => (go .plain).map (consChar c)

/-- Reads the parts of a template for a pattern with the given group names. -/
def readParts (names : List (Option String)) :
    Context → List Char → Except TemplateFault (List TemplatePart)
  | .plain, [] => .ok []
  | .escape, [] => .error .escapeUnfinished
  | .dollar, [] => .error .referenceIllegal
  | .name _, [] => .error .nameUnclosed
  | .number group, [] => .ok [.group group]
  | .plain, c :: cs => readPlain c fun context => readParts names context cs
  | .escape, c :: cs => (readParts names .plain cs).map (consChar c)
  | .dollar, c :: cs =>
    if c = '{' then readParts names (.name []) cs
    else
      match digit? c with
      | none => .error .referenceIllegal
      | some group =>
        if group ≤ names.length - 1 then readParts names (.number group) cs
        else .error (.groupUnknown group)
  | .name read, c :: cs =>
    if c = '}' then
      let name := String.ofList read.reverse
      match groupNamed? names name with
      | some group => (readParts names .plain cs).map (.group group :: ·)
      | none => .error (.nameUnknown name)
    else readParts names (.name (c :: read)) cs
  | .number group, c :: cs =>
    let ended :=
      (readPlain c fun context => readParts names context cs).map (.group group :: ·)
    match digit? c with
    | none => ended
    | some digit =>
      if group * 10 + digit ≤ names.length - 1 then
        readParts names (.number (group * 10 + digit)) cs
      else ended

def parse (names : List (Option String)) (text : String) : Except TemplateFault Template :=
  (readParts names .plain text.toList).map .mk

def expandPart (groups : Nat → List Char) : TemplatePart → List Char
  | .text chars => chars
  | .group index => groups index

def expand (template : Template) (groups : Nat → List Char) : List Char :=
  template.parts.flatMap (expandPart groups)

end Template

def Compiled.template (compiled : Compiled) (text : String) : Except Refusal Template :=
  match Template.parse compiled.groupNames text with
  | .ok template => .ok template
  | .error fault => .error (.template fault)

def Compiled.replace (compiled : Compiled) (text : String) (template : Template) : String :=
  String.ofList ((compiled.segments text).replace fun m => template.expand m.group)

end QueryFunctions.Pattern
