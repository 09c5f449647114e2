import LogLens.Pattern.Basic
import LogLens.Record.Basic
import LogLens.Decimal.Reading
/-!
# Operands of comparisons

An operand is a field of the record or a literal. What kind a token is, is decided by a fixed order
of tests: a point at the beginning makes a field, quotes around it a constant, slashes around a
regular expression a pattern; then come the two truth values and the numbers, and everything else is
a constant as it stands. So every token is an operand.

Operands are compared by their text: that of a field is looked up in the record, that of a number is
the way it is shown, whatever way it was written.
-/

namespace LogLens

/-- One side of a comparison. -/
inductive Operand where
  | field (name : String)
  | constant (text : String)
  | number (n : Number)
  | boolean (b : Bool)
  | pattern (p : Pattern)

namespace Operand

/-- Reads a number: an integer of 64 bits, or else a finite binary64 number. -/
def number? (token : List Char) : Option Number :=
  match (Decimal.integer? token).bind Whole.ofInt? with
  | some n => some (.whole n)
  | none =>
    match Decimal.real? token with
    | some x => if x.isFinite then some (.real x) else none
    | none => none

/-- What is between two delimiters, the token's first and last character. -/
def enclosed? (delimiter : Char) : List Char → Option (List Char)
  | [] => none
  | c :: cs => if c = delimiter then Text.dropEnd? delimiter cs else none

/-- The pattern between slashes, when there is one. -/
def pattern? (token : List Char) : Option Pattern :=
  (enclosed? '/' token).bind fun source => Pattern.compile? (String.ofList source)

/-- A truth value. -/
def boolean? (token : List Char) : Option Bool :=
  if token = "true".toList then some true
  else if token = "false".toList then some false
  else none

/-- Reads a literal that is not enclosed in quotes. -/
def bare (token : List Char) : Operand :=
  match pattern? token, boolean? token, number? token with
  | some p, _, _ => .pattern p
  | none, some b, _ => .boolean b
  | none, none, some n => .number n
  | none, none, none => .constant (String.ofList token)

/-- Reads an operand. -/
def read (token : List Char) : Operand :=
  match token with
  | '.' :: name => .field (String.ofList name)
  | _ =>
    match enclosed? '"' token with
    | some text => .constant (String.ofList text)
    | none => bare token

/-- The operand as it can be written. -/
def display : Operand → String
  | field name => "." ++ name
  | constant text => "\"" ++ text ++ "\""
  | number n => n.shownOrText
  | boolean b => if b then "true" else "false"
  | pattern p => "/" ++ p.source ++ "/"

/-- The text that stands for the operand in a comparison. -/
def value (r : Record) : Operand → String
  | field name => r.lookup name
  | constant text => text
  | number n => n.shownOrText
  | boolean b => if b then "true" else "false"
  | pattern p => p.source

end Operand

end LogLens
