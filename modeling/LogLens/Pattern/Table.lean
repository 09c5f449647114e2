import LogLens.Pattern.CharClass
import LogLens.Text.Cut
/-!
# Tables of classes

A table lists classes of characters under their names. The names are in lower case without blanks,
hyphens and underscores. A class is written as its ranges in ascending order with blanks between
them, in hexadecimal: `61` is one code point, `61-7A` a range, and `100-12E/2` stands for every
second code point from the first to the last one.
-/

namespace LogLens.Pattern

/-- The number that hexadecimal digits in upper case write. -/
def hexNumber (cs : List Char) : Nat :=
  cs.foldl (fun n c => n * 16 + (if c.isDigit then c.toNat - 48 else c.toNat - 55)) 0

/-- Single code points from `low` to `high`, a step apart. -/
def stepped (low high step : Nat) : List Range :=
  (List.range ((high - low) / step + 1)).map fun k => Range.single (low + k * step)

/-- The ranges that an item of a table stands for. -/
def itemRanges (item : List Char) : List Range :=
  match Text.cutAt? ['-'] item with
  | none => [Range.single (hexNumber item)]
  | some (low, rest) =>
    match Text.cutAt? ['/'] rest with
    | none => [⟨hexNumber low, hexNumber rest⟩]
    | some (high, step) => stepped (hexNumber low) (hexNumber high) (hexNumber step)

/-- The class that a text of a table writes. -/
def writtenClass (text : String) : CharClass :=
  ⟨.characters, (Text.pieces ' ' text.toList).flatMap itemRanges⟩

/-- Classes under their names. -/
abbrev Table := List (List String × String)

/-- The class under a name. -/
def Table.find? (table : Table) (name : String) : Option CharClass :=
  (List.find? (fun e => e.1.contains name) table).map fun e => writtenClass e.2

/-- The union of the classes under some names. -/
def Table.union (table : Table) (names : List String) : CharClass :=
  .unions .characters (names.filterMap table.find?)

end LogLens.Pattern
