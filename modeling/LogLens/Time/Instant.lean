import LogLens.Decimal.Text
import LogLens.Time.Calendar
/-!
# Instants

An instant is a second, counted from 1970-01-01T00:00:00Z, and a number of nanoseconds. A leap
second has no number of its own in that count: it is the second before it with a billion
nanoseconds more, so `nanos` runs up to two billions.

`Clockface` is an instant as a calendar and a clock at some offset show it. A leap second shows as
second 60 there when the offset is a whole number of minutes.
-/

namespace LogLens

/-- A moment in time. -/
structure Instant where
  seconds : Int
  nanos : Nat
  nanos_lt : nanos < 2000000000
  deriving DecidableEq, Repr

namespace Instant

/-- The least and the greatest number of milliseconds that is an instant. -/
def millisRange : Int × Int := (-8334601228800000, 8210266876799999)

/-- The instant a number of milliseconds after 1970-01-01T00:00:00Z, when it is in range. -/
def ofMillis? (millis : Int) : Option Instant :=
  if millisRange.1 ≤ millis ∧ millis ≤ millisRange.2 then
    some
      { seconds := millis.fdiv 1000
        nanos := (millis.fmod 1000).toNat % 1000 * 1000000
        nanos_lt := by omega }
  else none

/-- The instant cut down to whole milliseconds. -/
def wholeMillis (t : Instant) : Instant where
  seconds := t.seconds
  nanos := t.nanos / 1000000 * 1000000
  nanos_lt := Nat.lt_of_le_of_lt (Nat.div_mul_le_self _ _) t.nanos_lt

end Instant

/-- What a calendar and a clock show. -/
structure Clockface where
  date : Date
  hour : Nat
  minute : Nat
  second : Nat
  nanos : Nat
  deriving DecidableEq, Repr

/-- What is shown at an instant by a calendar and a clock that are `offset` seconds ahead. -/
def Clockface.of (offset : Int) (t : Instant) : Clockface :=
  let s := t.seconds + offset
  let ofDay := (s.fmod 86400).toNat
  { date := Date.ofDays (s.fdiv 86400)
    hour := ofDay / 3600
    minute := ofDay / 60 % 60
    second := ofDay % 60 + t.nanos / 1000000000
    nanos := t.nanos % 1000000000 }

namespace Clockface

/-- A natural number with at least `width` digits. -/
def padded (width n : Nat) : List Char :=
  let digits := Nat.toDigits 10 n
  List.replicate (width - digits.length) '0' ++ digits

/-- A year: four digits, or a sign and at least four digits outside of 0 to 9999. -/
def yearText (year : Int) : List Char :=
  if 0 ≤ year ∧ year ≤ 9999 then padded 4 year.natAbs
  else (if year < 0 then '-' else '+') :: padded 4 year.natAbs

/-- Year, month and day. -/
def dateText (c : Clockface) : List Char :=
  yearText c.date.year ++ '-' :: padded 2 c.date.month ++ '-' :: padded 2 c.date.day

/-- Hour, minute, second and the first digits of the fraction: `digits` of nine. -/
def timeText (digits : Nat) (c : Clockface) : List Char :=
  padded 2 c.hour ++ ':' :: padded 2 c.minute ++ ':' :: padded 2 c.second ++
    '.' :: padded digits (c.nanos / Nat.pow 10 (9 - digits))

/-- Hours and minutes of an offset with its sign, rounded to the nearest minute. -/
def offsetText (offset : Int) : List Char :=
  let minutes := (offset.natAbs + 30) / 60
  (if offset < 0 then '-' else '+') :: padded 2 (minutes / 60) ++ ':' :: padded 2 (minutes % 60)

end Clockface

end LogLens
