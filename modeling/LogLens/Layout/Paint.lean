import LogLens.Level
/-!
# Painted text

A terminal changes its color at an escape sequence, `ESC [ n m`, and goes back to its own color at
the sequence with number 0. A text is painted by the sequence of its color before it and the
sequence of number 0 after it. Where the text itself goes back to the terminal's color, the opening
sequence is repeated, so that the rest of the text keeps its color.
-/

namespace LogLens.Layout

/-- The number of a color. -/
def inkNumber : Ink → List Char
  | .gray => ['9', '0']
  | .red => ['3', '1']
  | .green => ['3', '2']
  | .yellow => ['3', '3']
  | .magenta => ['3', '5']
  | .cyan => ['3', '6']

/-- The escape sequence of a number. -/
def escapeSequence (number : List Char) : List Char := '\x1b' :: '[' :: number ++ ['m']

/-- The sequence after a painted text. -/
def resetSequence : List Char := escapeSequence ['0']

/-- Repeats `opening` after every sequence of number 0. -/
def reopened (opening : List Char) : List Char → List Char
  | '\x1b' :: '[' :: '0' :: 'm' :: rest => resetSequence ++ opening ++ reopened opening rest
  | c :: rest => c :: reopened opening rest
  | [] => []

/-- A text in a color. -/
def painted (ink : Ink) (text : List Char) : List Char :=
  let opening := escapeSequence (inkNumber ink)
  opening ++ reopened opening text ++ resetSequence

/-- A text in a color, or as it is when no colors are used. -/
def paint (colors : Bool) (ink : Ink) (text : String) : List Char :=
  if colors then painted ink text.toList else text.toList

end LogLens.Layout
