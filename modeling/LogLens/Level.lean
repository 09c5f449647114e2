import LogLens.Text.Blank
/-!
# Severity levels

Six levels, from `trace` to `fatal`. Each has a number on the scale that the log format uses (10 for
`trace`, then steps of ten), and every number, also one between two levels or outside of the scale,
stands for the nearest level at or below it; what is below the scale counts as `trace`.

The order of the levels is the order of their numbers, so a threshold is compared through
`Level.number`.

## Main results

* `ofNumber_number` — a level is recovered from its number.
* `le_number_iff` — a number's level reaches a threshold exactly when the number does, for every
  threshold but the lowest, which every number reaches.
-/

namespace LogLens

/-- The colors of a terminal that the layouts use. -/
inductive Ink where
  | gray
  | red
  | green
  | yellow
  | magenta
  | cyan
  deriving DecidableEq, Repr

/-- The severity of a record. -/
inductive Level where
  | trace
  | debug
  | info
  | warn
  | error
  | fatal
  deriving DecidableEq, Repr, Inhabited

namespace Level

/-- All levels, from the least severe on. -/
def all : List Level := [trace, debug, info, warn, error, fatal]

/-- The number of a level. -/
def number : Level → Int
  | trace => 10
  | debug => 20
  | info => 30
  | warn => 40
  | error => 50
  | fatal => 60

/-- The nearest level at or below a number. -/
def ofNumber (n : Int) : Level :=
  if n < 20 then trace
  else if n < 30 then debug
  else if n < 40 then info
  else if n < 50 then warn
  else if n < 60 then error
  else fatal

/-- The name in upper case, as it is shown and looked up. -/
def name : Level → String
  | trace => "TRACE"
  | debug => "DEBUG"
  | info => "INFO"
  | warn => "WARN"
  | error => "ERROR"
  | fatal => "FATAL"

/-- The name filled with blanks on the left to five columns. -/
def label : Level → String
  | trace => "TRACE"
  | debug => "DEBUG"
  | info => " INFO"
  | warn => " WARN"
  | error => "ERROR"
  | fatal => "FATAL"

/-- The color of the label. -/
def ink : Level → Ink
  | trace => .gray
  | debug => .yellow
  | info => .green
  | warn => .magenta
  | error => .red
  | fatal => .red

/-- Whether a level is at least as severe as a threshold. -/
def reaches (threshold level : Level) : Bool := decide (threshold.number ≤ level.number)

/-- The levels below a level, from the least severe on. -/
def below (level : Level) : List Level := all.filter fun l => decide (l.number < level.number)

/-- A level's name in any letter case, with blank characters around it allowed. -/
def read? (text : List Char) : Option Level :=
  match String.ofList ((Text.trim text).map Char.toLower) with
  | "trace" => some trace
  | "debug" => some debug
  | "info" => some info
  | "warn" => some warn
  | "warning" => some warn
  | "error" => some error
  | "fatal" => some fatal
  | _ => none

/-- What is said about a text that names no level. -/
def unknownMessage (text : String) : String :=
  "Unknown log level: '" ++ text ++
    "'. Valid levels are: trace, debug, info, warn, error, fatal"

theorem ofNumber_number (l : Level) : ofNumber l.number = l := by
  cases l <;> rfl

/-- A number's level reaches a threshold exactly when the number does; every number reaches the
lowest threshold. -/
theorem le_number_iff (l : Level) (n : Int) :
    reaches l (ofNumber n) = true ↔ l = trace ∨ l.number ≤ n := by
  unfold reaches ofNumber
  cases l <;> (repeat' split) <;> simp [number] <;> omega

end Level

end LogLens
