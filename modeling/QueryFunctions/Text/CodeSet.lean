import QueryFunctions.Text.StepMap

/-! Sets of code points. A set is given by its flips, the increasing list of the
points at which membership changes; this is one list for each set, so equality of
sets is equality of lists. All Boolean operations are one merge of two flip lists.

The surrogates are code points but no characters. A set holds them exactly where one
stretch of characters runs across them, from U+D7FF to U+E000; two stretches that end
on either side of them stay apart. -/

namespace QueryFunctions

/-- A set of code points, given by the points at which membership changes. -/
structure CodeSet where
  flips : List Nat
  deriving DecidableEq

namespace CodeSet

def empty : CodeSet := ⟨[]⟩

/-- The code points from `lo` to `hi`, both included. -/
def ofRange (lo hi : Nat) : CodeSet := if lo ≤ hi then ⟨[lo, hi + 1]⟩ else empty

def single (n : Nat) : CodeSet := ofRange n n

def isEmpty (s : CodeSet) : Bool := s.flips.isEmpty

/-- Membership of `n`, given the state before the first of the flips. -/
def insideAt (n : Nat) : Bool → List Nat → Bool
  | inside, [] => inside
  | inside, flip :: flips => if n < flip then inside else insideAt n (!inside) flips

def contains (s : CodeSet) (n : Nat) : Bool := insideAt n false s.flips

def has (s : CodeSet) (c : Char) : Bool := s.contains c.toNat

/-- Merges two flip lists under a Boolean operation. The flags hold the membership in the
two arguments and in the result before the next flip. -/
def merge (op : Bool → Bool → Bool) :
    Nat → Bool → Bool → Bool → List Nat → List Nat → List Nat
  | 0, _, _, _, _, _ => []
  | _ + 1, _, _, _, [], [] => []
  | fuel + 1, inA, inB, out, a :: as, [] =>
    let now := op (!inA) inB
    let rest := merge op fuel (!inA) inB now as []
    if now = out then rest else a :: rest
  | fuel + 1, inA, inB, out, [], b :: bs =>
    let now := op inA (!inB)
    let rest := merge op fuel inA (!inB) now [] bs
    if now = out then rest else b :: rest
  | fuel + 1, inA, inB, out, a :: as, b :: bs =>
    if a < b then
      let now := op (!inA) inB
      let rest := merge op fuel (!inA) inB now as (b :: bs)
      if now = out then rest else a :: rest
    else if b < a then
      let now := op inA (!inB)
      let rest := merge op fuel inA (!inB) now (a :: as) bs
      if now = out then rest else b :: rest
    else
      let now := op (!inA) (!inB)
      let rest := merge op fuel (!inA) (!inB) now as bs
      if now = out then rest else a :: rest

/-- The set of the points whose two memberships the operation maps to true. The operation
maps two absences to an absence. -/
def combine (op : Bool → Bool → Bool) (s t : CodeSet) : CodeSet :=
  ⟨merge op (s.flips.length + t.flips.length) false false false s.flips t.flips⟩

def union : CodeSet → CodeSet → CodeSet := combine (· || ·)

def inter : CodeSet → CodeSet → CodeSet := combine (· && ·)

def all : CodeSet := ⟨[0, 0x110000]⟩

def ascii : CodeSet := ofRange 0 0x7F

/-- The code points of no character. -/
def surrogates : CodeSet := ofRange 0xD800 0xDFFF

/-- Whether both neighbours of the surrogates are in the set. -/
def flanksSurrogates (s : CodeSet) : Bool := s.contains 0xD7FF && s.contains 0xE000

/-- The set without surrogates that no stretch of characters runs across. -/
def trim (s : CodeSet) : CodeSet :=
  if s.flanksSurrogates then s else combine (fun a b => a && !b) s surrogates

def diff (s t : CodeSet) : CodeSet := trim (combine (fun a b => a && !b) s t)

def symmDiff (s t : CodeSet) : CodeSet := trim (combine (fun a b => a != b) s t)

/-- The stretches between those of the set. A stretch goes from the character after one
stretch to the character before the next. If one ends at U+D7FF and the next begins at
U+E000, these two ends are themselves the bounds of the stretch between, which holds both. -/
def compl (s : CodeSet) : CodeSet :=
  let rest := all.diff s
  if s.flanksSurrogates && !s.contains 0xD800 then rest.union (ofRange 0xD7FF 0xE000) else rest

/-- The characters from `lo` to `hi`, both included. -/
def ofChars (lo hi : Char) : CodeSet := ofRange lo.toNat hi.toNat

def unions (sets : List CodeSet) : CodeSet := sets.foldl union empty

/-- The set of the code points in an increasing list. -/
def ofSorted : List Nat → CodeSet
  | [] => empty
  | n :: ns =>
    match (ofSorted ns).flips with
    | m :: flips => if m = n + 1 then ⟨n :: flips⟩ else ⟨n :: (n + 1) :: m :: flips⟩
    | [] => ⟨[n, n + 1]⟩

def count : List Nat → Nat
  | lo :: hi :: flips => hi - lo + count flips
  | _ => 0

def size (s : CodeSet) : Nat := count s.flips

def elements : List Nat → List Nat
  | lo :: hi :: flips => List.range' lo (hi - lo) ++ elements flips
  | _ => []

/-- The elements in increasing order. -/
def toList (s : CodeSet) : List Nat := elements s.flips

def theOnly? (s : CodeSet) : Option Nat :=
  match s.flips with
  | [a, b] => if b = a + 1 then some a else none
  | _ => none

/-- The flips as steps of the membership function. -/
def steps : Bool → List Nat → List (Nat × Bool)
  | _, [] => []
  | inside, flip :: flips => (flip, !inside) :: steps (!inside) flips

/-- The membership function in a form for quick lookups. -/
def index (s : CodeSet) : StepMap Bool := StepMap.ofSteps false (steps false s.flips)

end CodeSet

end QueryFunctions
