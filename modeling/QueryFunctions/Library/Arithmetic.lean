import QueryFunctions.Function.Spec

/-! Functions on numbers. A result that is infinite or no number is reported and becomes
null. -/

namespace QueryFunctions.Library

def arithmetic (op : Binary64 → Binary64 → Binary64) : Body := fun _ args => do
  let x := numberAt args 0
  let y := numberAt args 1
  let result := op x y
  if result.isFinite then pure (Json.ofBinary64 result)
  else do
    Run.report (.notFinite x y result)
    pure .null

def add : Body := arithmetic Binary64.add

def subtract : Body := arithmetic Binary64.sub

def multiply : Body := arithmetic Binary64.mul

def divide : Body := arithmetic Binary64.div

end QueryFunctions.Library
