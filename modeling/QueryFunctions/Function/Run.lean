import QueryFunctions.Function.Failure
import QueryFunctions.Pattern.FlagSet

/-! Runs of functions. A run reports what it does as a list of events, and comes to a value
or a failure. Functions may call others without end; a run that is cut short has no
outcome. -/

namespace QueryFunctions

inductive Event where
  | calling (function : String) (count : Nat)
  | compiled (pattern : String) (flags : Pattern.FlagSet)
  | matchesEmptyText (pattern : String)
  | notFinite (x y result : Binary64)
  | rejected (function : String) (failure : Failure)

namespace Event

def describeFlags (flags : Pattern.FlagSet) : String :=
  "FlagSet \x7b case_insensitive: " ++ toString flags.ignoreCase ++
    ", multi_line: " ++ toString flags.multiLine ++
    ", dot_matches_new_line: " ++ toString flags.dotAll ++
    ", literal: " ++ toString flags.literal ++ " \x7d"

/-- The line that reports an event, with its level and its subject. -/
def line : Event → String
  | calling function count =>
    "TRACE jmespath_contrib::env: calling " ++ function ++ "() with " ++ toString count ++
      " argument(s)"
  | compiled pattern flags =>
    "TRACE jmespath_contrib::pattern: compiled pattern " ++ logQuote pattern ++ " with flags " ++
      describeFlags flags
  | matchesEmptyText pattern =>
    "DEBUG jmespath_contrib::pattern: pattern " ++ logQuote pattern ++
      " matches a zero-length string"
  | notFinite x y result =>
    let text := Binary64.plainFormat.write
    "DEBUG jmespath_contrib::math_functions: " ++ text x ++ " and " ++ text y ++
      " give non-finite result " ++ text result
  | rejected function failure =>
    "DEBUG jmespath_contrib::function: call to " ++ function ++ "() rejected: " ++
      failure.describe

end Event

/-- How a run ends. -/
inductive Outcome (α : Type) where
  | value (a : α)
  | failure (failure : Failure)
  | unfinished

/-- A run: the events in order, and the outcome. -/
structure Run (α : Type) where
  events : List Event
  outcome : Outcome α

namespace Run

variable {α β : Type}

def ofValue (a : α) : Run α := ⟨[], .value a⟩

def fail (failure : Failure) : Run α := ⟨[], .failure failure⟩

def cut : Run α := ⟨[], .unfinished⟩

/-- Whether a run has not been cut short. -/
def isFinished (run : Run α) : Bool :=
  match run.outcome with
  | .unfinished => false
  | _ => true

def report (event : Event) : Run Unit := ⟨[event], .value ()⟩

/-- Goes on with the value of a run, if it has one. -/
def andThen (run : Run α) (next : α → Run β) : Run β :=
  match run.outcome with
  | .value a => ⟨run.events ++ (next a).events, (next a).outcome⟩
  | .failure failure => ⟨run.events, .failure failure⟩
  | .unfinished => ⟨run.events, .unfinished⟩

instance : Monad Run where
  pure := ofValue
  bind := andThen

/-- The run of something that may fail. -/
def ofExcept (result : Except Failure α) : Run α :=
  match result with
  | .ok a => ofValue a
  | .error failure => fail failure

/-- The run of something that patterns may be refused for. No function is blamed yet. -/
def ofPattern (result : Except Pattern.Refusal α) : Run α :=
  match result with
  | .ok a => ofValue a
  | .error refusal => fail ⟨.pattern refusal, ""⟩

end Run

end QueryFunctions
