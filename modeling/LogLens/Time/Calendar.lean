/-!
# The civil calendar

Days are numbered from 1970-01-01, forwards and backwards, and dates are those of the Gregorian
calendar carried on in both directions without end; the year before year 1 is year 0.

Both conversions count in years that begin in March, so that the leap day is the last day of its
year, and in eras of 400 such years, which all have the same number of days. Within an era all
quantities are natural numbers.

## Main results

* `daysInMonth_le` — a month has at most 31 days.
-/

namespace LogLens

/-- A date of the civil calendar. -/
structure Date where
  year : Int
  month : Nat
  day : Nat
  deriving DecidableEq, Repr

namespace Date

/-- The number of days in 400 years. -/
def eraDays : Int := 146097

/-- The number of days from the first of March of year 0 to the first of January 1970. -/
def epochShift : Int := 719468

/-- The date of a numbered day. -/
def ofDays (days : Int) : Date :=
  let z := days + epochShift
  let era := z.fdiv eraDays
  let dayOfEra := (z.fmod eraDays).toNat
  let yearOfEra :=
    (dayOfEra - dayOfEra / 1460 + dayOfEra / 36524 - dayOfEra / 146096) / 365
  let dayOfYear := dayOfEra - (365 * yearOfEra + yearOfEra / 4 - yearOfEra / 100)
  let fromMarch := (5 * dayOfYear + 2) / 153
  let day := dayOfYear - (153 * fromMarch + 2) / 5 + 1
  let month := if fromMarch < 10 then fromMarch + 3 else fromMarch - 9
  let year : Int := yearOfEra + era * 400
  ⟨if month ≤ 2 then year + 1 else year, month, day⟩

/-- The number of the day of a date. -/
def toDays (d : Date) : Int :=
  let year := if d.month ≤ 2 then d.year - 1 else d.year
  let era := year.fdiv 400
  let yearOfEra := (year.fmod 400).toNat
  let fromMarch := (d.month + 9) % 12
  let dayOfYear := (153 * fromMarch + 2) / 5 + d.day - 1
  let dayOfEra := yearOfEra * 365 + yearOfEra / 4 - yearOfEra / 100 + dayOfYear
  era * eraDays + dayOfEra - epochShift

/-- Whether a year has a leap day. -/
def isLeapYear (year : Int) : Bool :=
  year % 4 == 0 && (year % 100 != 0 || year % 400 == 0)

/-- The number of days in a month. -/
def daysInMonth (year : Int) (month : Nat) : Nat :=
  if month = 2 then (if isLeapYear year then 29 else 28)
  else if month = 4 ∨ month = 6 ∨ month = 9 ∨ month = 11 then 30
  else 31

/-- Whether month and day exist. -/
def isValid (d : Date) : Bool :=
  decide (1 ≤ d.month ∧ d.month ≤ 12 ∧ 1 ≤ d.day ∧ d.day ≤ daysInMonth d.year d.month)

/-- The day of the week of a numbered day, Sunday being 0. -/
def weekday (days : Int) : Nat := ((days + 4).fmod 7).toNat

theorem daysInMonth_le (year : Int) (month : Nat) : daysInMonth year month ≤ 31 := by
  unfold daysInMonth; (repeat' split) <;> decide

end Date

end LogLens
