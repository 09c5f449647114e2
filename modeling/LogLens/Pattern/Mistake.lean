import LogLens.Pattern.Cursor
import LogLens.Text.Cut
/-!
# Mistakes in patterns

A mistake says what is wrong in the text of a pattern and where. `Mistake.message` shows it: the
pattern, under it marks at the place, and then what is wrong. A pattern of several lines is shown
with the numbers of the lines, between two dividers; for a place that goes over several lines the
lines are named after it. A mistake that repeats something marks the earlier place too.
-/

namespace LogLens.Pattern

/-- What can be wrong in a pattern. -/
inductive Fault where
  | setEscape
  | rangeOrder
  | rangeEnd
  | setUnclosed
  | numberTooLarge
  | hexEmpty
  | hexNoCharacter
  | hexDigit
  | escapeUnfinished
  | escapeUnknown
  | minusAlone
  | flagRepeated
  | minusRepeated
  | flagsUnfinished
  | flagUnknown
  | nameRepeated
  | nameEmpty
  | nameCharacter
  | nameUnclosed
  | groupUnclosed
  | groupUnopened
  | tooDeep
  | countOrder
  | countEmpty
  | countUnclosed
  | nothingToRepeat
  | boundaryUnclosed
  | boundaryUnknown
  | boundaryUnfinished
  | propertyLetter
  | backreference
  | lookAround
  | noUnicode
  | notUtf8
  | propertyUnknown
  | propertyValueUnknown
  deriving DecidableEq, Repr

/-- How deep an expression may be nested. -/
def maxNesting : Nat := 250

/-- The wording of a fault. -/
def Fault.text : Fault → String
  | setEscape => "invalid escape sequence found in character class"
  | rangeOrder => "invalid character class range, the start must be <= the end"
  | rangeEnd => "invalid range boundary, must be a literal"
  | setUnclosed => "unclosed character class"
  | numberTooLarge => "decimal literal invalid"
  | hexEmpty => "hexadecimal literal empty"
  | hexNoCharacter => "hexadecimal literal is not a Unicode scalar value"
  | hexDigit => "invalid hexadecimal digit"
  | escapeUnfinished => "incomplete escape sequence, reached end of pattern prematurely"
  | escapeUnknown => "unrecognized escape sequence"
  | minusAlone => "dangling flag negation operator"
  | flagRepeated => "duplicate flag"
  | minusRepeated => "flag negation operator repeated"
  | flagsUnfinished => "expected flag but got end of regex"
  | flagUnknown => "unrecognized flag"
  | nameRepeated => "duplicate capture group name"
  | nameEmpty => "empty capture group name"
  | nameCharacter => "invalid capture group character"
  | nameUnclosed => "unclosed capture group name"
  | groupUnclosed => "unclosed group"
  | groupUnopened => "unopened group"
  | tooDeep =>
    "exceed the maximum number of nested parentheses/brackets (" ++ toString maxNesting ++ ")"
  | countOrder => "invalid repetition count range, the start must be <= the end"
  | countEmpty => "repetition quantifier expects a valid decimal"
  | countUnclosed => "unclosed counted repetition"
  | nothingToRepeat => "repetition operator missing expression"
  | boundaryUnclosed =>
    "special word boundary assertion is either unclosed or contains an invalid character"
  | boundaryUnknown =>
    "unrecognized special word boundary assertion, valid choices are: start, end, start-half " ++
      "or end-half"
  | boundaryUnfinished =>
    "found either the beginning of a special word boundary or a bounded repetition on a \\b " ++
      "with an opening brace, but no closing brace"
  | propertyLetter => "invalid Unicode character class"
  | backreference => "backreferences are not supported"
  | lookAround => "look-around, including look-ahead and look-behind, is not supported"
  | noUnicode => "Unicode not allowed here"
  | notUtf8 => "pattern can match invalid UTF-8"
  | propertyUnknown => "Unicode property not found"
  | propertyValueUnknown => "Unicode property value not found"

/-- Something wrong at a place, and the earlier place that it repeats. -/
structure Mistake where
  fault : Fault
  span : Span
  earlier : Option Span := none
  deriving DecidableEq, Repr

/-- Fails with a mistake. -/
def mistaken {α : Type} (fault : Fault) (span : Span) : Except Mistake α :=
  .error ⟨fault, span, none⟩

namespace Mistake

/-- Some copies of a character. -/
def copies (n : Nat) (c : Char) : String := String.ofList (List.replicate n c)

/-- The marks for spans on one line, from a column on, which is counted from zero. Every span has at
least one mark. -/
def marked (column : Nat) : List Span → String
  | [] => ""
  | s :: rest =>
    let width := max 1 (s.past.column - s.first.column)
    copies (s.first.column - 1 - column) ' ' ++ copies width '^' ++
      marked (max column (s.first.column - 1) + width) rest

/-- The places of a mistake, in order. -/
def places (m : Mistake) : List Span :=
  match m.earlier with
  | none => [m.span]
  | some e => if e.first.inOrder m.span.first then [e, m.span] else [m.span, e]

/-- The line without the carriage return that belongs to its end. -/
def withoutReturn (line : List Char) : List Char := (Text.dropEnd? '\r' line).getD line

/-- The lines of a pattern. What follows the last line break is a line unless it is empty. -/
def linesOf : List (List Char) → List (List Char)
  | [] => []
  | [last] => if last.isEmpty then [] else [last]
  | line :: rest => withoutReturn line :: linesOf rest

/-- The lines of a pattern, each with the marks under it; `number` is that of the first line, and
`width` the room for numbers, zero where there are none. -/
def notated (spans : List Span) (width : Nat) : (number : Nat) → List (List Char) → String
  | _, [] => ""
  | number, line :: rest =>
    let digits := toString number
    let indent :=
      if width = 0 then "    " else copies (width - digits.length) ' ' ++ digits ++ ": "
    let marks := spans.filter fun s => s.isOneLine && s.first.line == number
    let below :=
      if marks.isEmpty then ""
      else copies (if width = 0 then 4 else width + 2) ' ' ++ marked 0 marks ++ "\n"
    indent ++ String.ofList line ++ "\n" ++ below ++ notated spans width (number + 1) rest

/-- The lines that a place goes over. -/
def overLines (s : Span) : String :=
  "on line " ++ toString s.first.line ++ " (column " ++ toString s.first.column ++
    ") through line " ++ toString s.past.line ++ " (column " ++ toString (s.past.column - 1) ++ ")"

/-- A mistake in a pattern as it is shown. -/
def message (source : String) (m : Mistake) : String :=
  let pieces := Text.pieces '\n' source.toList
  let lines := linesOf pieces
  let width := if pieces.length ≤ 1 then 0 else (toString pieces.length).length
  let body := notated m.places width 1 lines
  let what := "error: " ++ m.fault.text
  if pieces.length ≤ 1 then "regex parse error:\n" ++ body ++ what
  else
    let divider := copies 79 '~' ++ "\n"
    let across := m.places.filter fun s => !s.isOneLine
    let notes :=
      if across.isEmpty then "" else Text.joined "\n" (across.map overLines) ++ "\n"
    "regex parse error:\n" ++ divider ++ body ++ divider ++ notes ++ what

end Mistake

end LogLens.Pattern
