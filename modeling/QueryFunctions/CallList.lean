import QueryFunctions.Json.Spelling
import QueryFunctions.Library.Standard

/-! Lists of calls as JSON text, and what running them prints. A list is read as a whole
before the first call is run: one malformed call, and nothing is run. -/

namespace QueryFunctions

structure Call where
  function : String
  args : List Argument

namespace Call

/-! ### Reading -/

def fieldsNamed (name : String) (fields : List (Option String × Spelling)) : List Spelling :=
  (fields.filter (·.1 = some name)).map (·.2)

/-- An argument: the expression that the object's only `expression` field holds as a string,
or the value itself. -/
def argument? (depth : Nat) (spelling : Spelling) : Option Argument := do
  let v ← spelling.value? depth
  match spelling with
  | .object fields =>
    match fieldsNamed "expression" fields with
    | [.string (some source)] => some (.expression source)
    | _ => some (.value v)
  | _ => some (.value v)

def arguments? (depth : Nat) : Spelling → Option (List Argument)
  | .array items => items.mapM (argument? depth)
  | _ => none

def ofParts? (depth : Nat) (function : Spelling) (args : Option Spelling) : Option Call := do
  match function with
  | .string (some function) =>
    match args with
    | none => some ⟨function, []⟩
    | some args => some ⟨function, ← arguments? depth args⟩
  | _ => none

/-- Reads a call. It is an object with one `function` and at most one `args` among its
fields, or an array of these two, the second of which may be missing. -/
def ofSpelling? (depth : Nat) : Spelling → Option Call
  | .object fields =>
    if fields.any (·.1.isNone) then none
    else
      match fieldsNamed "function" fields, fieldsNamed "args" fields with
      | [function], [] => ofParts? depth function none
      | [function], [args] => ofParts? depth function (some args)
      | _, _ => none
  | .array [function] => ofParts? depth function none
  | .array [function, args] => ofParts? depth function (some args)
  | _ => none

/-- Reads a list of calls. The list, each call and its arguments take up three levels of
nesting. -/
def parseList? (text : String) : Option (List Call) :=
  match Spelling.parse? text with
  | some (.array items) => items.mapM (ofSpelling? (Json.maxDepth - 3))
  | _ => none

/-! ### Running -/

def describe : Outcome Json → String
  | .value v => v.text
  | .failure failure => failure.describe
  | .unfinished => "unfinished"

/-- The line that a call prints in the standard environment. -/
def line (call : Call) : String :=
  call.function ++ "(..) => " ++
    describe (Environment.standard.call call.function call.args).outcome ++ "\n"

end Call

/-- What a program leaves behind: its exit code and what it has printed. -/
structure Report where
  exitCode : Nat
  printed : String
  deriving DecidableEq, Repr

/-- The result of a list of calls that is not readable. -/
def Report.unreadable : Report := ⟨1, ""⟩

def Report.ofText (text : String) : Report :=
  match Call.parseList? text with
  | some calls => ⟨0, String.join (calls.map Call.line)⟩
  | none => .unreadable

/-- Runs the calls in the bytes of a file, if there is such a file. -/
def Report.ofFile (bytes : Option ByteArray) : Report :=
  match bytes.bind String.fromUTF8? with
  | some text => .ofText text
  | none => .unreadable

/-- A list of calls that shows the library at work. -/
def demoCalls : String :=
  "[" ++ ",".intercalate [
    "\x7b\"function\": \"concat\", \"args\": [\"Ciao\", null, \"!\", [], 1]\x7d",
    "\x7b\"function\": \"tokenize\", \"args\": [\" red green blue \"]\x7d",
    "\x7b\"function\": \"tokenize\", \"args\": [\" red green blue \", \"\\\\s+\"]\x7d",
    "\x7b\"function\": \"replace\", \"args\": [\"abracadabra\", \"a.*?a\", \"*\"]\x7d",
    "\x7b\"function\": \"matches\", \"args\": [\"b^az\", \"^A\", \"qi\"]\x7d",
    "\x7b\"function\": \"translate\", \"args\": [\"abcabc\", \"abc\", \"AB\"]\x7d",
    "\x7b\"function\": \"divide\", \"args\": [5, 0]\x7d",
    "\x7b\"function\": \"tokenize\", \"args\": [\"abba\", \".?\"]\x7d",
    "\x7b\"function\": \"upper_case\", \"args\": [\x7b\"expression\": \"foo\"\x7d]\x7d"] ++ "]"

def Report.demo : Report := .ofText demoCalls

end QueryFunctions
