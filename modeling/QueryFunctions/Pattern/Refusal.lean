import QueryFunctions.Pattern.Report

/-! The reasons for which a pattern, its flags or a replacement cannot be used, and their
wording. -/

namespace QueryFunctions.Pattern

inductive TemplateFault where
  | escapeUnfinished
  | nameUnclosed
  | nameUnknown (name : String)
  | groupUnknown (group : Nat)
  | referenceIllegal
  deriving DecidableEq, Repr

def TemplateFault.message : TemplateFault → String
  | escapeUnfinished => "character to be escaped is missing"
  | nameUnclosed => "unclosed group name"
  | nameUnknown name => "no group with name \x7b" ++ name ++ "\x7d"
  | groupUnknown group => "no group " ++ toString group
  | referenceIllegal => "illegal group reference"

/-- Why a pattern with its flags, or a template for it, is refused. -/
inductive Refusal where
  | flagUnknown (flag : Char)
  | flagRepeated (flag : Char)
  | malformed (source : List Char) (fault : Fault)
  | tooLarge (limit : Nat)
  | matchesEmptyText
  | template (fault : TemplateFault)
  deriving DecidableEq

def Refusal.message : Refusal → String
  | flagUnknown flag => "invalid flag '" ++ flag.toString ++ "'"
  | flagRepeated flag => "duplicate flag '" ++ flag.toString ++ "'"
  | malformed source fault => fault.report source
  | tooLarge limit => "Compiled regex exceeds size limit of " ++ toString limit ++ " bytes."
  | matchesEmptyText => "pattern matches zero-length string"
  | template fault => "invalid replacement template: " ++ fault.message

end QueryFunctions.Pattern
