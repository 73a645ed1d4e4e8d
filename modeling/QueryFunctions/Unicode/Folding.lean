import QueryFunctions.Unicode.FoldingTable
import QueryFunctions.Unicode.Packed

/-! Matching without regard to case. Simple case folding cuts the characters into classes of
those that fold together; a set is closed under it when it holds all of a class or nothing. -/

namespace QueryFunctions.Unicode

/-- Every code point that folds together with others, with those others. -/
def foldingEntries : List (Nat × List Nat) := unpackEntries foldingTable

/-- The partners of every code point, in a form for quick lookups. -/
def partnersIndex : StepMap (List Nat) :=
  .ofSteps [] (foldingEntries.flatMap fun (code, partners) => [(code, partners), (code + 1, [])])

/-- The other members of the case class of a code point. -/
def casePartners (n : Nat) : List Nat := partnersIndex.find n

def caseClass (c : Char) : CodeSet :=
  CodeSet.unions ((c.toNat :: casePartners c.toNat).map .single)

/-- The least set above `s` that is closed under folding. -/
def caseClosure (s : CodeSet) : CodeSet :=
  let inside := s.index
  let added := foldingEntries.filter fun (_, partners) => partners.any inside.find
  s.union (.ofSorted (added.map (·.1)))

/-- The least set above `s` that is closed under exchanging the cases of ASCII letters. -/
def asciiCaseClosure (s : CodeSet) : CodeSet :=
  let shift (lo hi : Nat) (up : Bool) : CodeSet :=
    ⟨(s.inter (.ofRange lo hi)).flips.map fun n => if up then n + 32 else n - 32⟩
  CodeSet.unions [s, shift 65 90 true, shift 97 122 false]

end QueryFunctions.Unicode
