import QueryFunctions.Pattern.Refusal
import QueryFunctions.Pattern.Tree

/-! The flags that a caller gives beside a pattern: `i`, `m`, `s` and `q`, each at most
once and in any order. -/

namespace QueryFunctions.Pattern

/-- A set of flags. Under `literal` the pattern stands for its own text. -/
structure FlagSet where
  ignoreCase : Bool := false
  multiLine : Bool := false
  dotAll : Bool := false
  literal : Bool := false
  deriving DecidableEq, Repr

namespace FlagSet

/-- Whether the set has the flag of a letter and the set with it, for the letters that are
flags. -/
def flag? (set : FlagSet) : Char → Option (Bool × FlagSet)
  | 'i' => some (set.ignoreCase, { set with ignoreCase := true })
  | 'm' => some (set.multiLine, { set with multiLine := true })
  | 's' => some (set.dotAll, { set with dotAll := true })
  | 'q' => some (set.literal, { set with literal := true })
  | _ => none

def add (set : FlagSet) (flag : Char) : Except Refusal FlagSet :=
  match set.flag? flag with
  | none => .error (.flagUnknown flag)
  | some (true, _) => .error (.flagRepeated flag)
  | some (false, more) => .ok more

def addAll (set : FlagSet) : List Char → Except Refusal FlagSet
  | [] => .ok set
  | flag :: flags => do (← set.add flag).addAll flags

/-- The set that a text of flags names. -/
def parse (flags : String) : Except Refusal FlagSet := addAll {} flags.toList

/-- The modes in which a pattern is read under the flags. -/
def modes (set : FlagSet) : Modes :=
  { ignoreCase := set.ignoreCase, multiLine := set.multiLine, dotAll := set.dotAll }

/-- The modes in which the guard against empty matches reads a pattern under the flags, for a
matcher of its own. -/
def guardModes (set : FlagSet) : Modes :=
  { ignoreCase := set.ignoreCase, multiLine := set.multiLine, dotAll := set.dotAll }

/-- Both readings of a pattern are under the same modes. -/
@[simp] theorem guardModes_eq_modes (set : FlagSet) : set.guardModes = set.modes := rfl

end FlagSet

end QueryFunctions.Pattern
