import LogLens.Decimal.Reading
import LogLens.Text.Cut
import LogLens.Time.DisplayZone
/-!
# Histories of clocks

The history of a clock that is put forward and back has the offset of the beginning, the moments at
which the offset changed, and, where it still changes every year, a rule that takes over after the
last listed change.

A yearly rule is given in local time: summer time starts and ends on a weekday of a month, counted
from the first of the month on or, as fifth, the last one, at some second of that day by the clock
that is then in force. South of the equator summer time ends before it starts within a year.
-/

namespace LogLens.Zone

/-- A moment of every year in local time: `week` 1 to 4 counts weekdays of a month, 5 is the last
one. -/
structure Turn where
  month : Nat
  week : Nat
  weekday : Nat
  second : Int
  deriving DecidableEq, Repr

/-- Offsets in winter and summer and the turns between them. -/
structure Yearly where
  winter : Int
  summer : Int
  summerStart : Turn
  summerEnd : Turn
  deriving DecidableEq, Repr

/-- A history: the first offset, the changes in order of time, and the rule after them. -/
structure History where
  first : Int
  changes : List (Int × Int)
  yearly : Option Yearly
  deriving DecidableEq, Repr

/-- One change: the moment and the offset, with a colon between them. -/
def change? (entry : List Char) : Option (Int × Int) :=
  (Text.cutAt? [':'] entry).bind fun sides =>
    match Decimal.integer? sides.1, Decimal.integer? sides.2 with
    | some moment, some offset => some (moment, offset)
    | _, _ => none

/-- The changes that a table lists, with blanks between them. -/
def changesOf (table : String) : List (Int × Int) :=
  (Text.pieces ' ' table.toList).filterMap change?

/-- The second of a turn, in local time, in a given year. -/
def Turn.inYear (turn : Turn) (year : Int) : Int :=
  let first := Date.toDays ⟨year, turn.month, 1⟩
  let firstMatch := (turn.weekday + 7 - Date.weekday first) % 7
  let day := firstMatch + 7 * (turn.week - 1)
  let day := if Date.daysInMonth year turn.month ≤ day then day - 7 else day
  (first + day) * 86400 + turn.second

/-- The offset that a yearly rule gives at a second. -/
def Yearly.offsetAt (rule : Yearly) (second : Int) : Int :=
  let year := (Date.ofDays ((second + rule.winter).fdiv 86400)).year
  let start := rule.summerStart.inYear year - rule.winter
  let stop := rule.summerEnd.inYear year - rule.summer
  let isSummer :=
    if start < stop then decide (start ≤ second ∧ second < stop)
    else !decide (stop ≤ second ∧ second < start)
  if isSummer then rule.summer else rule.winter

/-- The offset at a second when `offset` is in force and `changes` are still to come. -/
def offsetFrom (yearly : Option Yearly) (second : Int) : (offset : Int) → List (Int × Int) → Int
  | offset, [] =>
    match yearly with
    | none => offset
    | some rule => rule.offsetAt second
  | offset, (moment, next) :: changes =>
    if second < moment then offset else offsetFrom yearly second next changes

/-- The clock that has a history. -/
def History.clock (history : History) : Clock where
  offsetAt second := offsetFrom history.yearly second history.first history.changes

end LogLens.Zone
