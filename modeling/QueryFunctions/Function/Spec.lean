import QueryFunctions.Function.Run
import QueryFunctions.Pattern.Compiled

/-! Functions: a name, a signature, and a body that runs once the signature has been met. -/

namespace QueryFunctions

namespace Signature

def checkArity (signature : Signature) (function : String) (count : Nat) : Except Failure Unit :=
  if signature.arity.accepts count then .ok ()
  else .error ⟨.arity function signature.arity count, function⟩

/-- Checks the types of the arguments from a position on. The first mismatch counts. -/
def checkTypes (signature : Signature) (function : String) :
    Nat → List Argument → Except Failure Unit
  | _, [] => .ok ()
  | index, arg :: args =>
    match signature.typeAt? index with
    | none => signature.checkTypes function (index + 1) args
    | some expected =>
      if expected.accepts arg.kind then signature.checkTypes function (index + 1) args
      else .error ⟨.argumentType function index expected arg.kind, function⟩

/-- Checks the arguments of a call: their number, then their types. -/
def validate (signature : Signature) (function : String) (args : List Argument) :
    Except Failure Unit := do
  signature.checkArity function args.length
  signature.checkTypes function 0 args

end Signature

/-- A function as a body finds it in the environment: to be looked at, and to be called. -/
structure Callee where
  name : String
  signature : Signature
  call : List Argument → Run Json

/-- What the body of a function can ask of the environment that it is called in: the limits
for patterns, the names of the functions, checks of calls, and calls. -/
structure Host where
  limits : Pattern.Limits
  names : List String
  checkCall : String → Nat → Except Failure Callee
  call : String → List Argument → Run Json

/-- What a function does with arguments that meet its signature. -/
abbrev Body := Host → List Argument → Run Json

structure FunctionSpec where
  name : String
  signature : Signature
  body : Body

namespace FunctionSpec

def describe (spec : FunctionSpec) : String :=
  spec.name ++ "(" ++ spec.signature.describe ++ ") arity " ++ spec.signature.arity.describe

/-- Reports a failure of a call and attributes it to the function. -/
def blame (spec : FunctionSpec) (run : Run Json) : Run Json :=
  match run.outcome with
  | .failure failure =>
    ⟨run.events ++ [.rejected spec.name failure], .failure (failure.within spec.name)⟩
  | _ => run

/-- Calls a function: checks the arguments and runs the body. -/
def call (spec : FunctionSpec) (host : Host) (args : List Argument) : Run Json :=
  spec.blame do
    Run.ofExcept (spec.signature.validate spec.name args)
    spec.body host args

end FunctionSpec

end QueryFunctions
