/-! Lists of values under names, kept in increasing order of the names. Text is ordered by the
codes of its characters. -/

namespace QueryFunctions.Keyed

variable {α : Type}

/-- Puts a value under a name, in the place of the one that was there. -/
def insert (name : String) (value : α) : List (String × α) → List (String × α)
  | [] => [(name, value)]
  | (other, old) :: rest =>
    if name < other then (name, value) :: (other, old) :: rest
    else if name = other then (name, value) :: rest
    else (other, old) :: insert name value rest

def find? (name : String) (entries : List (String × α)) : Option α := entries.lookup name

/-- The entries in order; of several under one name the last one is kept. -/
def ofList (entries : List (String × α)) : List (String × α) :=
  entries.foldl (fun sorted (name, value) => insert name value sorted) []

end QueryFunctions.Keyed
