/-!
# Classes of characters

A class is a set of code points, written as ranges in ascending order that neither overlap nor
touch. Every set has exactly one such form, so two classes are equal when they have the same
members, and the number of ranges of a class says how much room it takes.

An alphabet says what a class can hold: characters or bytes. There are no characters from 0xD800 to
0xDFFF, and the character before that gap and the one after it are neighbours.

`ofRanges` brings ranges into that form. Union merges two classes, the complement takes the gaps
between the ranges, and the other operations come from these two.
-/

namespace LogLens.Pattern

/-- What a class can hold. -/
inductive Alphabet where
  | characters
  | bytes
  deriving DecidableEq, Repr

namespace Alphabet

/-- The last code point. -/
def last : Alphabet → Nat
  | characters => 0x10FFFF
  | bytes => 0xFF

/-- The code point after another one. -/
def next (a : Alphabet) (c : Nat) : Nat :=
  match a with
  | characters => if c = 0xD7FF then 0xE000 else c + 1
  | bytes => c + 1

/-- The code point before another one. -/
def previous (a : Alphabet) (c : Nat) : Nat :=
  match a with
  | characters => if c = 0xE000 then 0xD7FF else c - 1
  | bytes => c - 1

end Alphabet

/-- The code points from `low` to `high`. -/
structure Range where
  low : Nat
  high : Nat
  deriving DecidableEq, Repr

namespace Range

/-- A single code point. -/
def single (c : Nat) : Range := ⟨c, c⟩

/-- Whether a code point is in a range. -/
def holds (r : Range) (c : Nat) : Bool := decide (r.low ≤ c) && decide (c ≤ r.high)

/-- The common part of two ranges. -/
def meet? (r s : Range) : Option Range :=
  let low := max r.low s.low
  let high := min r.high s.high
  if low ≤ high then some ⟨low, high⟩ else none

/-- Joins a range with those of the following ranges that overlap or touch it, and so on. -/
def coalesce (a : Alphabet) (r : Range) : List Range → List Range
  | [] => [r]
  | s :: rest =>
    if s.low ≤ a.next r.high then coalesce a ⟨r.low, max r.high s.high⟩ rest
    else r :: coalesce a s rest

/-- The ranges between some ranges, from `low` on. -/
def gaps (a : Alphabet) (low : Nat) : List Range → List Range
  | [] => if low ≤ a.last then [⟨low, a.last⟩] else []
  | r :: rest =>
    if low < r.low then ⟨low, a.previous r.low⟩ :: gaps a (a.next r.high) rest
    else gaps a (a.next r.high) rest

end Range

/-- A set of code points of an alphabet, as ascending ranges with gaps between them. -/
structure CharClass where
  alphabet : Alphabet
  ranges : List Range
  deriving DecidableEq, Repr

namespace CharClass

/-- The class of no code point. -/
def none (a : Alphabet) : CharClass := ⟨a, []⟩

/-- The class of ranges that are in ascending order of their lower ends. -/
def ofSorted (a : Alphabet) (ranges : List Range) : CharClass :=
  match ranges with
  | [] => none a
  | r :: rest => ⟨a, Range.coalesce a r rest⟩

/-- Whether one range begins no later than another. -/
def inOrder (r s : Range) : Bool := decide (r.low ≤ s.low)

/-- The class of some ranges. -/
def ofRanges (a : Alphabet) (ranges : List Range) : CharClass :=
  ofSorted a (ranges.mergeSort inOrder)

/-- All code points. -/
def all (a : Alphabet) : CharClass := ⟨a, [⟨0, a.last⟩]⟩

/-- The code points of two classes. -/
def union (x y : CharClass) : CharClass := ofSorted x.alphabet (x.ranges.merge y.ranges inOrder)

/-- The code points of a list of classes. -/
def unions (a : Alphabet) (xs : List CharClass) : CharClass := xs.foldl union (none a)

/-- The code points that a class does not hold. -/
def compl (x : CharClass) : CharClass := ⟨x.alphabet, Range.gaps x.alphabet 0 x.ranges⟩

/-- The code points that both classes hold. -/
def inter (x y : CharClass) : CharClass := (x.compl.union y.compl).compl

/-- The code points of one class that another one does not hold. -/
def diff (x y : CharClass) : CharClass := (x.compl.union y).compl

/-- The code points that just one of two classes holds. -/
def symmDiff (x y : CharClass) : CharClass := (x.union y).diff (x.inter y)

/-- Whether a code point is in one of some ascending ranges. -/
def inRanges (c : Nat) : List Range → Bool
  | [] => false
  | r :: rest => if c < r.low then false else if c ≤ r.high then true else inRanges c rest

/-- Whether a class holds a code point. -/
def holds (x : CharClass) (c : Nat) : Bool := inRanges c x.ranges

/-- Whether a class holds a character. -/
def has (x : CharClass) (c : Char) : Bool := x.holds c.toNat

/-- Whether a class holds nothing beyond ASCII. -/
def isAscii (x : CharClass) : Bool := x.ranges.all fun r => decide (r.high < 128)

/-- The character of a class that holds just one. -/
def only? (x : CharClass) : Option Char :=
  match x.ranges with
  | [r] => if r.low = r.high then some (Char.ofNat r.low) else Option.none
  | _ => Option.none

end CharClass

end LogLens.Pattern
