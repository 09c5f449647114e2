import LogLens.Pattern.Reader.Group
import LogLens.Pattern.Reader.Set
/-!
# Reading regular expressions

The reader takes a regular expression apart from left to right. It keeps the groups that are open
and, for each, the branches and parts it has so far; every step takes at least one character, so the
length of the text is fuel enough. A text that is no regular expression has no tree but a mistake.
-/

namespace LogLens.Pattern

/-- The branches and parts of an open group, the last ones first, with the places where the first
branch and the current one begin. -/
structure Branches where
  first : Position
  current : Position
  finished : List Tree
  parts : List Tree

namespace Branches

/-- Nothing is read yet. -/
def start (p : Position) : Branches := ⟨p, p, [], []⟩

/-- Adds a part. -/
def add (b : Branches) (t : Tree) : Branches := { b with parts := t :: b.parts }

/-- The tree of the current branch, which ends at a position. -/
def branch (b : Branches) (p : Position) : Tree := Tree.ofParts ⟨b.current, p⟩ b.parts.reverse

/-- Begins the next branch after the mark at a cursor. -/
def next (b : Branches) (c : Cursor) : Branches :=
  ⟨b.first, c.step.position, b.branch c.position :: b.finished, []⟩

/-- The tree of all branches, which end at a position. -/
def tree (b : Branches) (p : Position) : Tree :=
  match b.finished with
  | [] => b.branch p
  | finished => .branches ⟨b.first, p⟩ (b.branch p :: finished).reverse

end Branches

/-- What a group is: one that keeps what it matches has a number, another one may change flags. -/
inductive GroupKind where
  | capture (number : Nat)
  | plain (change : FlagChange)

/-- A group around the one that is being read. -/
structure Frame where
  outer : Branches
  opened : Span
  kind : GroupKind
  verbose : Bool

/-- The tree of a group. -/
def GroupKind.tree (kind : GroupKind) (span : Span) (inner : Tree) : Tree :=
  match kind with
  | capture number => .capture span number inner
  | plain change => .group span change inner

/-- How far the reader is. -/
structure Reading where
  verbose : Bool := false
  captures : Nat := 0
  names : List GroupName := []
  current : Branches
  stack : List Frame := []

namespace Reading

/-- Adds a part to the current branch. -/
def add (r : Reading) (t : Tree) : Reading := { r with current := r.current.add t }

/-- Opens a group, whose contents begin at `inner`. -/
def push (r : Reading) (kind : GroupKind) (verbose : Bool) (opened : Span) (inner : Position) :
    Reading :=
  { r with
    verbose := verbose
    current := .start inner
    stack := ⟨r.current, opened, kind, r.verbose⟩ :: r.stack }

/-- Opens a group that keeps what it matches. -/
def pushCapture (r : Reading) (name : Option GroupName) (opened : Span) (inner : Position) :
    Reading :=
  let r := { r with captures := r.captures + 1, names := name.toList ++ r.names }
  r.push (.capture r.captures) r.verbose opened inner

/-- Closes a group at a cursor. -/
def pop (r : Reading) (c : Cursor) : Except Mistake Reading :=
  match r.stack with
  | [] => mistaken .groupUnopened c.one
  | frame :: stack =>
    let t := frame.kind.tree (c.step.since frame.opened.first) (r.current.tree c.position)
    .ok { r with verbose := frame.verbose, current := frame.outer.add t, stack := stack }

/-- The last part, which a repetition at a cursor is about, and the others. -/
def last (r : Reading) (c : Cursor) : Except Mistake (Tree × List Tree) :=
  match r.current.parts with
  | [] => mistaken .nothingToRepeat c.here
  | .empty _ :: _ => mistaken .nothingToRepeat c.here
  | .flags _ _ :: _ => mistaken .nothingToRepeat c.here
  | t :: parts => .ok (t, parts)

/-- Puts a repetition, which ends at a cursor, in place of the last part. -/
def repeated (r : Reading) (parts : List Tree) (t : Tree) (least : Nat) (most : Option Nat)
    (greedy : Bool) (c : Cursor) : Reading :=
  { r with
    current :=
      { r.current with
        parts := .repetition (c.since t.span.first) t least most greedy :: parts } }

/-- Reads a repetition that is one character, and the mark for few after it. -/
def mark (r : Reading) (least : Nat) (most : Option Nat) (c : Cursor) :
    Except Mistake (Reading × Cursor) := do
  let (t, parts) ← r.last c
  let (greedy, rest) :=
    match c.step.past? ['?'] with
    | some after => (false, after)
    | none => (true, c.step)
  .ok (r.repeated parts t least most greedy rest, rest)

/-- Reads a counted repetition. -/
def counted (r : Reading) (c : Cursor) : Except Mistake (Reading × Cursor) := do
  let (t, parts) ← r.last c
  let ((least, most, greedy), rest) ← count r.verbose c
  .ok (r.repeated parts t least most greedy rest, rest)

/-- Reads the opening of a group, or a change of flags. -/
def group (r : Reading) (c : Cursor) : Except Mistake (Reading × Cursor) := do
  let (o, rest) ← opening r.verbose r.names c
  match o with
  | .change flags =>
    let r := { r with verbose := stateOf .verbose r.verbose flags }
    .ok (r.add (.flags (rest.since c.position) flags), rest)
  | .group flags =>
    .ok (r.push (.plain flags) (stateOf .verbose r.verbose flags) c.one rest.position, rest)
  | .capture name => .ok (r.pushCapture name c.one rest.position, rest)

/-- Adds what was read to the current branch. -/
def adding (r : Reading) (read : Except Mistake (Tree × Cursor)) :
    Except Mistake (Reading × Cursor) :=
  read.map fun e => (r.add e.1, e.2)

/-- Reads the element at a cursor, which begins with `d`. -/
def step (r : Reading) (d : Char) (c : Cursor) : Except Mistake (Reading × Cursor) :=
  match d with
  | '(' => r.group c
  | ')' => (r.pop c).map fun r => (r, c.step)
  | '|' => .ok ({ r with current := r.current.next c }, c.step)
  | '[' => r.adding (set r.verbose c)
  | '?' => r.mark 0 (some 1) c
  | '*' => r.mark 0 none c
  | '+' => r.mark 1 none c
  | '{' => r.counted c
  | '\\' => r.adding (escape r.verbose c)
  | '.' => .ok (r.add (.dot c.one), c.step)
  | '^' => .ok (r.add (.anchor c.one .lineStart), c.step)
  | '$' => .ok (r.add (.anchor c.one .lineEnd), c.step)
  | _ => .ok (r.add (.literal ⟨d, false, c.one⟩), c.step)

/-- The tree at the end of the text. -/
def finished (r : Reading) (c : Cursor) : Except Mistake Tree :=
  match r.stack with
  | [] => .ok (r.current.tree c.position)
  | frame :: _ => mistaken .groupUnclosed frame.opened

/-- Reads to the end of the text. -/
def finish : (fuel : Nat) → Reading → Cursor → Except Mistake Tree
  | 0, r, c => r.finished c
  | fuel + 1, r, c =>
    let c := c.shown r.verbose
    match c.text with
    | [] => r.finished c
    | d :: _ => do
      let (r, rest) ← r.step d c
      finish fuel r rest

end Reading

/-- The tree of a regular expression. -/
def Tree.read (text : List Char) : Except Mistake Tree := do
  let t ← Reading.finish (text.length + 1) { current := .start .start } (.start text)
  match t.tooDeep? maxNesting with
  | some span => mistaken .tooDeep span
  | none => .ok t

end LogLens.Pattern
