import LogLens.Text.Blank
/-!
# Places in the text of a pattern

A position is a line and a column, both counted from one; a line break belongs to the line that it
ends. A span is what lies between two positions. A cursor is a position together with the text from
there on.

In verbose notation blank characters and comments between the elements do not count; a comment goes
from a number sign to the end of the line. `shown` moves a cursor over what does not count.
-/

namespace LogLens.Pattern

open Text (isBlank)

/-- A place in a text. -/
structure Position where
  line : Nat
  column : Nat
  deriving DecidableEq, Repr

namespace Position

/-- The beginning of a text. -/
def start : Position := ⟨1, 1⟩

/-- The position after a character. -/
def after (p : Position) (c : Char) : Position :=
  if c = '\n' then ⟨p.line + 1, 1⟩ else ⟨p.line, p.column + 1⟩

/-- Whether a position comes no later than another one. -/
def inOrder (p q : Position) : Bool :=
  decide (p.line < q.line) || (p.line == q.line && decide (p.column ≤ q.column))

end Position

/-- What lies between two positions. -/
structure Span where
  first : Position
  past : Position
  deriving DecidableEq, Repr

namespace Span

/-- The empty span at a position. -/
def point (p : Position) : Span := ⟨p, p⟩

/-- Whether a span begins and ends on the same line. -/
def isOneLine (s : Span) : Bool := s.first.line == s.past.line

end Span

/-- A position and the text from there on. -/
structure Cursor where
  position : Position
  text : List Char
  deriving DecidableEq, Repr

namespace Cursor

/-- The cursor at the beginning of a text. -/
def start (text : List Char) : Cursor := ⟨.start, text⟩

/-- The empty span at the cursor. -/
def here (c : Cursor) : Span := .point c.position

/-- The span from a position to the cursor. -/
def since (c : Cursor) (first : Position) : Span := ⟨first, c.position⟩

/-- Moves over one character. -/
def step (c : Cursor) : Cursor :=
  match c.text with
  | [] => c
  | d :: rest => ⟨c.position.after d, rest⟩

/-- The span of the character at the cursor. -/
def one (c : Cursor) : Span := c.step.since c.position

/-- The text after blank characters and comments, with its position. -/
def skipped (inComment : Bool) (p : Position) : List Char → Cursor
  | [] => ⟨p, []⟩
  | d :: rest =>
    if inComment then skipped (d != '\n') (p.after d) rest
    else if isBlank d then skipped false (p.after d) rest
    else if d = '#' then skipped true (p.after d) rest
    else ⟨p, d :: rest⟩

/-- Moves over what does not count. -/
def shown (verbose : Bool) (c : Cursor) : Cursor :=
  if verbose then skipped false c.position c.text else c

/-- Moves over one character and what does not count after it. -/
def stepShown (verbose : Bool) (c : Cursor) : Cursor := c.step.shown verbose

/-- Moves over characters, as long as they satisfy `ok`. -/
def stepWhile (ok : Char → Bool) (p : Position) : List Char → Cursor
  | [] => ⟨p, []⟩
  | d :: rest => if ok d then stepWhile ok (p.after d) rest else ⟨p, d :: rest⟩

/-- Moves over blank characters. -/
def afterBlanks (c : Cursor) : Cursor := stepWhile isBlank c.position c.text

/-- Moves over `mark`, when the text begins with it. -/
def past? (mark : List Char) (c : Cursor) : Option Cursor :=
  match mark with
  | [] => some c
  | m :: ms =>
    match c.text with
    | [] => none
    | d :: _ => if m = d then past? ms c.step else none

/-- The character after the one at the cursor. -/
def second? (c : Cursor) : Option Char := c.text.tail.head?

/-- The first character that is neither blank nor the first number sign. -/
def firstShown? (sawSign : Bool) : List Char → Option Char
  | [] => none
  | d :: rest =>
    if isBlank d then firstShown? sawSign rest
    else if !sawSign && d == '#' then firstShown? true rest
    else some d

/-- The character after the one at the cursor, in verbose notation past blank characters and a
number sign; where there is no such character, the very next one. -/
def secondShown? (verbose : Bool) (c : Cursor) : Option Char :=
  if verbose then (firstShown? false c.text.tail).or c.second? else c.second?

end Cursor

end LogLens.Pattern
