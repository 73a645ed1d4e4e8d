import QueryFunctions.Function.Spec

/-! Environments: the functions that can be called by name, and the limits for the patterns
that they use. -/

namespace QueryFunctions

/-- Functions under their names, in increasing order, and the limits for patterns. -/
structure Environment where
  register : List (String × FunctionSpec) := []
  limits : Pattern.Limits := {}

namespace Environment

/-- Registers a function, in the place of one of the same name. -/
def add (env : Environment) (spec : FunctionSpec) : Environment :=
  { env with register := Keyed.insert spec.name spec env.register }

def withLimits (env : Environment) (limits : Pattern.Limits) : Environment :=
  { env with limits := limits }

def ofSpecs (specs : List FunctionSpec) : Environment := specs.foldl add {}

/-- The names of the functions in increasing order. -/
def names (env : Environment) : List String := env.register.map (·.1)

def size (env : Environment) : Nat := env.register.length

def resolve (env : Environment) (name : String) : Except Failure FunctionSpec :=
  match Keyed.find? name env.register with
  | some spec => .ok spec
  | none => .error ⟨.unknownFunction name, name⟩

/-- The function with a name, if it can be called with that many arguments. -/
def checkCall (env : Environment) (name : String) (count : Nat) : Except Failure FunctionSpec := do
  let spec ← env.resolve name
  spec.signature.checkArity name count
  .ok spec

/-- What the environment is for bodies, where its functions are run in a given way. -/
def hostFor (env : Environment) (run : FunctionSpec → List Argument → Run Json) : Host where
  limits := env.limits
  names := env.names
  checkCall name count :=
    (env.checkCall name count).map fun spec => ⟨spec.name, spec.signature, run spec⟩
  call name args := do
    Run.report (.calling name args.length)
    let spec ← Run.ofExcept (env.resolve name)
    run spec args

/-- Runs a function. Runs may be nested as deep as given; one that goes deeper is cut short. -/
def runWithin (env : Environment) : Nat → FunctionSpec → List Argument → Run Json
  | 0, _, _ => .cut
  | depth + 1, spec, args => spec.call (env.hostFor (env.runWithin depth)) args

/-- What the environment is for bodies that may nest runs as deep as given. -/
def hostWithin (env : Environment) (depth : Nat) : Host := env.hostFor (env.runWithin depth)

/-- Calls a function by name, with room for runs as deep as given. -/
def callWithin (env : Environment) (depth : Nat) : String → List Argument → Run Json :=
  (env.hostWithin depth).call

/-- A depth that suffices for functions which hand on a part of their arguments: a chain of
calls that is longer meets one of its calls again, and so has no end. -/
def depthFor (env : Environment) (args : List Argument) : Nat :=
  (env.size + 1) * (args.length + 1)

/-- A run of a call, with room for some depth of nested calls. -/
def RunOf (env : Environment) (name : String) (args : List Argument) : Type :=
  { run : Run Json // ∃ depth, run = env.callWithin (depth + 1) name args }

instance (env : Environment) (name : String) (args : List Argument) :
    Nonempty (env.RunOf name args) :=
  ⟨⟨_, 0, rfl⟩⟩

/-- Runs a call with a depth, and tells of twice the depth if the run is cut short. -/
def attempt (env : Environment) (name : String) (args : List Argument) (depth : Nat) :
    Nat ⊕ env.RunOf name args :=
  let run := env.callWithin (depth + 1) name args
  if run.isFinished then .inr ⟨run, depth, rfl⟩ else .inl (2 * depth + 1)

/-- Runs a call with a depth, and with twice the depth again as long as the run is cut short.
Calls that are nested without end are run without end. -/
def callFrom (env : Environment) (name : String) (args : List Argument) (depth : Nat) :
    env.RunOf name args :=
  Id.run (repeatM (fun depth => pure (env.attempt name args depth)) depth)

def call (env : Environment) (name : String) (args : List Argument) : Run Json :=
  (env.callFrom name args (env.depthFor args)).val

end Environment

end QueryFunctions
