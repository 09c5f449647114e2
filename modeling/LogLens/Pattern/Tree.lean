import LogLens.Pattern.Mistake
import LogLens.Pattern.Property
/-!
# Trees of regular expressions

A regular expression as it is written: literals, classes, anchors, repetitions, groups and the
changes of flags, each in its place and with the span it was read from. Nothing is decided yet that
depends on the flags in force.

A literal remembers whether it was written as two hexadecimal digits, because it then stands for a
byte where Unicode is switched off.

Trees must not be nested too deep. `Tree.tooDeep?` gives the first part that is, going through a
tree from left to right and from the outside in.
-/

namespace LogLens.Pattern

/-- The flags of a regular expression. -/
inductive Flag where
  | ignoreCase
  | multiLine
  | dotAll
  | swapGreed
  | unicode
  | crlf
  | verbose
  deriving DecidableEq, Repr

/-- The flag of a letter. -/
def Flag.ofLetter? : Char → Option Flag
  | 'i' => some ignoreCase
  | 'm' => some multiLine
  | 's' => some dotAll
  | 'U' => some swapGreed
  | 'u' => some unicode
  | 'R' => some crlf
  | 'x' => some verbose
  | _ => none

/-- Flags that are switched on or off. -/
abbrev FlagChange := List (Flag × Bool)

/-- A character, and whether it was written as a byte. -/
structure Literal where
  char : Char
  isByte : Bool
  span : Span
  deriving DecidableEq, Repr

/-- The classes with a letter of their own. -/
inductive Shorthand where
  | digit
  | space
  | word
  deriving DecidableEq, Repr

/-- The places in a text that an anchor can ask for. -/
inductive Anchor where
  | lineStart
  | lineEnd
  | textStart
  | textEnd
  | wordBoundary
  | notWordBoundary
  | wordStart
  | wordEnd
  | wordStartHalf
  | wordEndHalf
  deriving DecidableEq, Repr

/-- The operations between sets in brackets. -/
inductive SetOperation where
  | intersection
  | difference
  | symmetricDifference
  deriving DecidableEq, Repr

/-- The contents of brackets. -/
inductive SetTree where
  | nothing (span : Span)
  | literal (l : Literal)
  | range (low high : Literal)
  | ascii (span : Span) (negated : Bool) (ranges : List Range)
  | property (span : Span) (negated : Bool) (query : Query)
  | shorthand (span : Span) (negated : Bool) (kind : Shorthand)
  | bracket (span : Span) (negated : Bool) (inner : SetTree)
  | all (span : Span) (items : List SetTree)
  | operation (kind : SetOperation) (left right : SetTree)
  deriving Repr

/-- A regular expression. Groups that keep what they match are numbered. -/
inductive Tree where
  | empty (span : Span)
  | flags (span : Span) (change : FlagChange)
  | literal (l : Literal)
  | dot (span : Span)
  | anchor (span : Span) (a : Anchor)
  | property (span : Span) (negated : Bool) (query : Query)
  | shorthand (span : Span) (negated : Bool) (kind : Shorthand)
  | bracket (span : Span) (negated : Bool) (inner : SetTree)
  | repetition (span : Span) (t : Tree) (least : Nat) (most : Option Nat) (greedy : Bool)
  | capture (span : Span) (number : Nat) (t : Tree)
  | group (span : Span) (change : FlagChange) (t : Tree)
  | concat (span : Span) (ts : List Tree)
  | branches (span : Span) (ts : List Tree)
  deriving Repr

namespace SetTree

/-- Where a set was read from. -/
def span : SetTree → Span
  | nothing s => s
  | literal l => l.span
  | range low high => ⟨low.span.first, high.span.past⟩
  | ascii s _ _ => s
  | property s _ _ => s
  | shorthand s _ _ => s
  | bracket s _ _ => s
  | all s _ => s
  | operation _ left right => ⟨left.span.first, right.span.past⟩

/-- A list of items as one set, from `first` on where it is empty; a single item stands for
itself. -/
def ofItems (first : Position) : List SetTree → SetTree
  | [] => nothing (.point first)
  | [item] => item
  | item :: second :: rest =>
    all ⟨item.span.first, ((second :: rest).getLast?.map fun i => i.span.past).getD first⟩
      (item :: second :: rest)

mutual

/-- The first part of a set that is nested more than `room` deep. -/
def tooDeep? (room : Nat) : SetTree → Option Span
  | bracket s _ inner => if room = 0 then some s else tooDeep? (room - 1) inner
  | all s items => if room = 0 then some s else tooDeepAmong? (room - 1) items
  | operation kind left right =>
    if room = 0 then some (operation kind left right).span
    else (tooDeep? (room - 1) left).or (tooDeep? (room - 1) right)
  | _ => none

/-- The first part among some sets that is nested more than `room` deep. -/
def tooDeepAmong? (room : Nat) : List SetTree → Option Span
  | [] => none
  | v :: rest => (tooDeep? room v).or (tooDeepAmong? room rest)

end

end SetTree

namespace Tree

/-- Where an expression was read from. -/
def span : Tree → Span
  | empty s => s
  | flags s _ => s
  | literal l => l.span
  | dot s => s
  | anchor s _ => s
  | property s _ _ => s
  | shorthand s _ _ => s
  | bracket s _ _ => s
  | repetition s _ _ _ _ => s
  | capture s _ _ => s
  | group s _ _ => s
  | concat s _ => s
  | branches s _ => s

/-- Parts in a row; a single part stands for itself. -/
def ofParts (s : Span) : List Tree → Tree
  | [] => empty s
  | [t] => t
  | ts => concat s ts

mutual

/-- The first part of an expression that is nested more than `room` deep. -/
def tooDeep? (room : Nat) : Tree → Option Span
  | bracket s _ inner => if room = 0 then some s else inner.tooDeep? (room - 1)
  | repetition s t _ _ _ => if room = 0 then some s else tooDeep? (room - 1) t
  | capture s _ t => if room = 0 then some s else tooDeep? (room - 1) t
  | group s _ t => if room = 0 then some s else tooDeep? (room - 1) t
  | concat s ts => if room = 0 then some s else tooDeepAmong? (room - 1) ts
  | branches s ts => if room = 0 then some s else tooDeepAmong? (room - 1) ts
  | _ => none

/-- The first part among some expressions that is nested more than `room` deep. -/
def tooDeepAmong? (room : Nat) : List Tree → Option Span
  | [] => none
  | t :: rest => (tooDeep? room t).or (tooDeepAmong? room rest)

end

end Tree

end LogLens.Pattern
