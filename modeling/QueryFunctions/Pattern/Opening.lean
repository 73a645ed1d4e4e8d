import QueryFunctions.Pattern.Expr

/-! What the matches of a pattern begin with. An opening is a text in bytes that matches
begin with; those of a pattern are listed, the preferred ones first, as long as they are
few and short. A pattern whose list tells all about its matches stands for that list: its
texts are searched for, and no matcher is built. Where they are single ASCII characters, a
pattern of unknown length is not even matched but looked up: at each place, the character
that comes next decides. -/

namespace QueryFunctions.Pattern

/-- The first bytes of some matches. They are whole if no byte of a match comes after. -/
structure Opening where
  bytes : List UInt8
  whole : Bool
  deriving DecidableEq, Repr

namespace Opening

def blank : Opening := ⟨[], true⟩

def ofText (text : List Char) : Opening := ⟨text.flatMap String.utf8EncodeChar, true⟩

/-- The same opening of matches that may go on. -/
def unfinished (o : Opening) : Opening := { o with whole := false }

/-- An opening of at most `size` bytes. -/
def cut (size : Nat) (o : Opening) : Opening :=
  if o.bytes.length ≤ size then o else ⟨o.bytes.take size, false⟩

/-- The openings of matches that go on with matches that have the given openings. -/
def extend (o : Opening) (next : List Opening) : List Opening :=
  if o.whole then next.map fun later => ⟨o.bytes ++ later.bytes, later.whole⟩ else [o]

/-- Makes neighbours with the same bytes one; it is whole if all of them are. -/
def joinAlike (os : List Opening) : List Opening :=
  os.foldr (fun o rest =>
    match rest with
    | next :: later =>
      if o.bytes = next.bytes then ⟨o.bytes, o.whole && next.whole⟩ :: later else o :: rest
    | [] => [o]) []

/-- Leaves out the openings that begin with an earlier one: that one is preferred. -/
def leading (os : List Opening) : List Opening :=
  os.foldl (fun kept o =>
    if kept.any (·.bytes.isPrefixOf o.bytes) then kept else kept ++ [o]) []

end Opening

/-! ### Lists of openings -/

/-- How many openings are listed at most. -/
def openingLimit : Nat := 250

/-- How many bytes of an opening are kept. -/
def openingBytes : Nat := 100

/-- How many bytes of an opening are kept where a choice has too many openings. -/
def crowdedBytes : Nat := 4

/-- How many characters of a class are listed, and how many copies in a repetition. -/
def spreadLimit : Nat := 10

/-- All openings of a pattern, the preferred ones first, unless they are too many. -/
abbrev Openings := Option (List Opening)

namespace Openings

/-- The openings of the pattern that matches the empty text. -/
def blank : Openings := some [.blank]

/-- The openings of matches that may go on. -/
def unfinished (os : Openings) : Openings := os.map (·.map (·.unfinished))

/-- The openings of one pattern followed by another. Where one of them may be blank and the
next pattern begins with anything, so does the row. -/
def followedBy (first next : Openings) : Openings := do
  let os ← first
  if os.all (!·.whole) then some os
  else
    match next.filter (os.length * ·.length ≤ openingLimit) with
    | some later =>
      some ((Opening.joinAlike (os.flatMap (·.extend later))).map (·.cut openingBytes))
    | none => if os.any (·.bytes.isEmpty) then none else some (os.map (·.unfinished))

def orBranch (first second : Openings) : Openings := do
  let os ← first
  let os' ← second
  if os.length + os'.length ≤ openingLimit then some (Opening.joinAlike (os ++ os'))
  else
    let os := Opening.joinAlike (os.map (·.cut crowdedBytes))
    let os' := Opening.joinAlike (os'.map (·.cut crowdedBytes))
    if os.length + os'.length ≤ openingLimit then some (Opening.joinAlike (os ++ os')) else none

def times (min : Nat) (max : Option Nat) (greedy : Bool) (one : Openings) : Openings :=
  if min = 0 then
    let copies := if max == some 1 then one else one.unfinished
    if greedy then copies.orBranch blank else blank.orBranch copies
  else
    let copies := (List.replicate (Min.min min spreadLimit) one).foldl followedBy blank
    if max == some min && min ≤ spreadLimit then copies else copies.unfinished

end Openings

def openingsOfSet (set : CodeSet) : Openings :=
  if set.size ≤ spreadLimit then some (set.toList.map fun n => .ofText [Char.ofNat n]) else none

mutual

def Expr.openings : Expr → Openings
  | .empty => .blank
  | .literal text => some [(Opening.ofText text).cut openingBytes]
  | .chars set => openingsOfSet set
  | .look _ => .blank
  | .repeated min max greedy body => body.openings.times min max greedy
  | .group _ _ body => body.openings
  | .row items => Expr.openingsOfRow .blank items
  | .choice branches => Expr.openingsOfChoice (some []) branches

/-- The openings of patterns in a row, given those of the patterns before them. -/
def Expr.openingsOfRow (before : Openings) : List Expr → Openings
  | [] => before
  | e :: es => Expr.openingsOfRow (before.followedBy e.openings) es

/-- The openings of a choice of patterns, given those of the patterns before them. -/
def Expr.openingsOfChoice (before : Openings) : List Expr → Openings
  | [] => before
  | e :: es => Expr.openingsOfChoice (before.orBranch e.openings) es

end

/-! ### Lists that stand for patterns -/

namespace Opening

/-- How many bytes all openings begin with alike. -/
def commonSize : List Opening → Nat
  | [] => 0
  | o :: os => os.foldl (fun size o' =>
      (((o.bytes.take size).zip o'.bytes).takeWhile fun (a, b) => a == b).length) o.bytes.length

/-- Bytes that are frequent in texts: those beyond ASCII and these characters. -/
def isFrequent (byte : UInt8) : Bool :=
  128 ≤ byte.toNat ||
    "\n\r (),-./0129:_abcdefghilmnoprstuvxy|".toList.any fun c => c.toNat = byte.toNat

/-- The openings of at most `size` bytes, neighbours alike being one. -/
def shorten (size : Nat) (os : List Opening) : List Opening := joinAlike (os.map (·.cut size))

/-- The steps by which a long list is made short: the size that openings are cut to, and the
length of a list that is short enough as it is. -/
def shorteningSteps : List (Nat × Nat) := [(5, 10), (4, 10), (3, 64), (2, 64), (1, 10)]

/-- Cuts openings until their list is short enough. -/
def shortenBy : List (Nat × Nat) → List Opening → List Opening
  | [], os => os
  | (size, enough) :: steps, os =>
    if os.length ≤ enough then os else shortenBy steps (leading (os.map (·.cut size)))

/-- Whether a short list made from a list of whole openings is no better for a search: it has
openings that occur everywhere or it is still long. -/
def isPoor (os : List Opening) : Bool := os.any (·.bytes.length ≤ 2) || 64 < os.length

/-- Whether a search for a list of openings tells all about the matches. It does not where
it is quicker to search for fewer or shorter openings and to match afterwards: for a rare
byte that all of them begin with, for a long common beginning, or for a shorter list. -/
def isListing (os : List Opening) : Bool :=
  let kept := leading os
  let common := commonSize kept
  let rare := (kept.filterMap (·.bytes.head?)).any (!isFrequent ·)
  if 1 < os.length && 1 ≤ common && common ≤ 3 && rare then (shorten 1 kept).all (·.whole)
  else
    let quick := kept.all (·.whole) && kept.length ≤ 16
    let kept := if 4 < common || (1 < common && !quick) then shorten common kept else kept
    let short := shortenBy shorteningSteps kept
    kept.all (·.whole) && (isPoor short || short.all (·.whole))

end Opening

mutual

/-- Whether a pattern has neither groups nor conditions on places. -/
def Expr.isPlain : Expr → Bool
  | .look _ => false
  | .group _ _ _ => false
  | .repeated _ _ _ body => body.isPlain
  | .row items => Expr.allPlain items
  | .choice branches => Expr.allPlain branches
  | _ => true

/-- Whether no pattern has groups or conditions on places. -/
def Expr.allPlain : List Expr → Bool
  | [] => true
  | e :: es => e.isPlain && Expr.allPlain es

end

/-- The texts that a pattern stands for, if it is plain, has matches, none of them blank, and
a search for its openings tells all about them. -/
def Expr.listing? (e : Expr) : Option (List (List UInt8)) :=
  if e.isPlain then do
    let os ← e.openings
    if !os.isEmpty && os.all (!·.bytes.isEmpty) && Opening.isListing os then
      some ((Opening.leading os).map (·.bytes))
    else none
  else none

/-- Whether a number of characters is looked up one by one. From four to sixteen of them are
searched for together. -/
def isLookupCount (count : Nat) : Bool := count ≤ 3 || 17 ≤ count

/-- The characters by which a pattern is looked up: those that it stands for, if no least
length is known for it and they are the right number of ASCII characters. -/
def Expr.lookup? (e : Expr) : Option (List Char) :=
  if e.minLength.isNone then do
    let texts ← e.listing?
    if texts.all (·.length = 1) && isLookupCount texts.length then
      some (texts.flatMap (·.map fun byte => Char.ofNat byte.toNat))
    else none
  else none

end QueryFunctions.Pattern
