import LogLens.Time.Calendar
import Mathlib.Order.Monotone.Basic
import Mathlib.Tactic.IntervalCases
import Mathlib.Tactic.SplitIfs

/-!
# Dates and numbered days

The date of a numbered day exists, and its day has that number again; so no two days have one date.

An era of 400 years that begin in March is cut into years by a single division, whose result never
falls from one day to the next. So it is enough to look at the first and the last day of each year
of an era, and these are few. Within a year the months are found in the same way for each of at most
366 days.

## Main results

* `yearOfEra_spec` — the division finds the year in which a day lies.
* `isValid_ofDays`, `toDays_ofDays` — dates exist and go back to their days.
-/

namespace LogLens.Date

/-! ## The years of an era -/

/-- The year of an era in which a day of the era lies. -/
def yearOfEra (day : Nat) : Nat := (day - day / 1460 + day / 36524 - day / 146096) / 365

/-- The first day of a year of an era. -/
def yearStart (year : Nat) : Nat := 365 * year + year / 4 - year / 100

/-- The number of days of a year of an era. Its leap day is that of the civil year in which it
ends. -/
def yearLength (year : Nat) : Nat := if isLeapYear (year + 1 : Nat) then 366 else 365

theorem monotone_yearOfEra : Monotone yearOfEra := by
  refine monotone_nat_of_le_succ fun day => ?_
  unfold yearOfEra
  omega

/-- The first and the last day of every year of an era, and where the next year begins. -/
theorem yearOfEra_ends : ∀ year < 400,
    yearOfEra (yearStart year) = year ∧
      yearOfEra (yearStart year + yearLength year - 1) = year ∧
      yearStart year + yearLength year = if year = 399 then 146097 else yearStart (year + 1) := by
  decide +kernel

/-- A day of an era lies in the year that the division gives. -/
theorem yearOfEra_spec {day : Nat} (h : day < 146097) :
    yearOfEra day < 400 ∧ yearStart (yearOfEra day) ≤ day ∧
      day < yearStart (yearOfEra day) + yearLength (yearOfEra day) := by
  have hlast : yearOfEra day ≤ yearOfEra 146096 := monotone_yearOfEra (by omega)
  have hyear : yearOfEra day < 400 := Nat.lt_of_le_of_lt hlast (by decide)
  refine ⟨hyear, ?_, ?_⟩
  · by_contra hbefore
    have hpositive : yearOfEra day ≠ 0 := by
      intro hzero
      rw [hzero] at hbefore
      exact hbefore (Nat.zero_le day)
    obtain ⟨previous, hprevious⟩ := Nat.exists_eq_add_one_of_ne_zero hpositive
    obtain ⟨-, hstop, hnext⟩ := yearOfEra_ends previous (by omega)
    rw [if_neg (by omega)] at hnext
    rw [hprevious] at hbefore
    have hle := monotone_yearOfEra
      (show day ≤ yearStart previous + yearLength previous - 1 by omega)
    omega
  · by_contra hafter
    obtain ⟨-, -, hnext⟩ := yearOfEra_ends (yearOfEra day) hyear
    by_cases hend : yearOfEra day = 399
    · rw [if_pos hend] at hnext
      omega
    · rw [if_neg hend] at hnext
      obtain ⟨hstart, -, -⟩ := yearOfEra_ends (yearOfEra day + 1) (by omega)
      have hle := monotone_yearOfEra (show yearStart (yearOfEra day + 1) ≤ day by omega)
      omega

/-! ## The days of a year -/

/-- The month of a day of a year, counted from March. -/
def fromMarch (day : Nat) : Nat := (5 * day + 2) / 153

/-- The civil number of a month that is counted from March. -/
def civilMonth (month : Nat) : Nat := if month < 10 then month + 3 else month - 9

/-- The number of days before a month that is counted from March. -/
def monthStart (month : Nat) : Nat := (153 * month + 2) / 5

/-- The date of a day of a year of an era. -/
def ofYearDay (era : Int) (year day : Nat) : Date :=
  let month := civilMonth (fromMarch day)
  let civil : Int := year + era * 400
  ⟨if month ≤ 2 then civil + 1 else civil, month, day - monthStart (fromMarch day) + 1⟩

/-- Each day of a year lies in its month; February has its last day in long years only. -/
theorem fromMarch_spec : ∀ day < 366,
    fromMarch day < 12 ∧ monthStart (fromMarch day) ≤ day ∧
      day - monthStart (fromMarch day) <
        if fromMarch day = 11 then (if day = 365 then 29 else 28)
        else if fromMarch day ∈ [1, 3, 6, 8] then 30 else 31 := by
  decide +kernel

theorem civilMonth_spec : ∀ month < 12,
    1 ≤ civilMonth month ∧ civilMonth month ≤ 12 ∧ (civilMonth month + 9) % 12 = month ∧
      (civilMonth month ≤ 2 ↔ 10 ≤ month) := by
  decide

theorem daysInMonth_civilMonth (year : Int) {month : Nat} (h : month < 12) :
    daysInMonth year (civilMonth month) =
      if month = 11 then (if isLeapYear year then 29 else 28)
      else if month ∈ [1, 3, 6, 8] then 30 else 31 := by
  interval_cases month <;> rfl

theorem yearLength_le (year : Nat) : yearLength year ≤ 366 := by
  unfold yearLength
  split <;> decide

/-- The leap years of all eras are the same. -/
theorem isLeapYear_era (era : Int) (year : Nat) :
    isLeapYear (year + era * 400 + 1) = isLeapYear (year + 1 : Nat) := by
  have hfour : (year + era * 400 + 1) % 4 = ((year + 1 : Nat) : Int) % 4 := by omega
  have hhundred : (year + era * 400 + 1) % 100 = ((year + 1 : Nat) : Int) % 100 := by omega
  have hera : (year + era * 400 + 1) % 400 = ((year + 1 : Nat) : Int) % 400 := by omega
  rw [isLeapYear, isLeapYear, hfour, hhundred, hera]

theorem isValid_ofYearDay (era : Int) {year day : Nat} (h : day < yearLength year) :
    (ofYearDay era year day).isValid = true := by
  obtain ⟨hmonth, -, hlength⟩ := fromMarch_spec day (Nat.lt_of_lt_of_le h (yearLength_le year))
  obtain ⟨hfirst, hlast, -, hsecond⟩ := civilMonth_spec (fromMarch day) hmonth
  refine decide_eq_true ⟨hfirst, hlast, Nat.le_add_left 1 _, ?_⟩
  simp only [ofYearDay]
  rw [daysInMonth_civilMonth _ hmonth]
  by_cases hfebruary : fromMarch day = 11
  · rw [if_pos hfebruary] at hlength ⊢
    rw [if_pos (hsecond.2 (by omega)), isLeapYear_era]
    rw [yearLength] at h
    split_ifs at h hlength ⊢ <;> omega
  · rw [if_neg hfebruary] at hlength ⊢
    exact hlength

theorem toDays_ofYearDay (era : Int) {year day : Nat} (hyear : year < 400)
    (h : day < yearLength year) :
    (ofYearDay era year day).toDays =
      era * eraDays + (yearStart year + day : Nat) - epochShift := by
  obtain ⟨hmonth, hstart, -⟩ := fromMarch_spec day (Nat.lt_of_lt_of_le h (yearLength_le year))
  obtain ⟨-, -, hback, -⟩ := civilMonth_spec (fromMarch day) hmonth
  have hcivil : ((year : Int) + era * 400).fdiv 400 = era ∧
      (((year : Int) + era * 400).fmod 400).toNat = year := by
    rw [Int.fdiv_eq_ediv_of_nonneg _ (by decide), Int.fmod_eq_emod_of_nonneg _ (by decide)]
    omega
  have hcivilYear : (if (ofYearDay era year day).month ≤ 2 then (ofYearDay era year day).year - 1
      else (ofYearDay era year day).year) = year + era * 400 := by
    simp only [ofYearDay]
    split_ifs <;> omega
  unfold toDays
  dsimp only
  rw [hcivilYear, hcivil.1, hcivil.2]
  simp only [ofYearDay, hback]
  unfold yearStart
  unfold monthStart at hstart ⊢
  omega

/-! ## Numbered days -/

/-- The era, the year and the day of the year of a numbered day. -/
theorem exists_yearDay (days : Int) :
    ∃ (era : Int) (year day : Nat), year < 400 ∧ day < yearLength year ∧
      days = era * eraDays + (yearStart year + day : Nat) - epochShift ∧
      ofDays days = ofYearDay era year day := by
  have hpositive : (0 : Int) < eraDays := by decide
  obtain ⟨dayOfEra, hdayOfEra⟩ := Int.eq_ofNat_of_zero_le
    (Int.fmod_nonneg_of_pos (days + epochShift) hpositive)
  have hlt := Int.fmod_lt_of_pos (days + epochShift) hpositive
  have hdivision := Int.mul_fdiv_add_fmod (days + epochShift) eraDays
  have hshort : dayOfEra < 146097 := by
    rw [hdayOfEra, eraDays] at hlt
    omega
  obtain ⟨hyear, hstart, hend⟩ := yearOfEra_spec hshort
  refine ⟨(days + epochShift).fdiv eraDays, yearOfEra dayOfEra,
    dayOfEra - yearStart (yearOfEra dayOfEra), hyear, by omega, ?_, ?_⟩
  · rw [hdayOfEra] at hdivision
    rw [Nat.add_sub_cancel' hstart, Int.mul_comm]
    omega
  · have htoNat : ((days + epochShift).fmod eraDays).toNat = dayOfEra := by
      rw [hdayOfEra, Int.toNat_natCast]
    rw [← htoNat]
    rfl

/-- The date of a numbered day exists. -/
theorem isValid_ofDays (days : Int) : (ofDays days).isValid = true := by
  obtain ⟨era, year, day, -, hday, -, hdate⟩ := exists_yearDay days
  rw [hdate]
  exact isValid_ofYearDay era hday

/-- The day of the date of a numbered day has that number. -/
theorem toDays_ofDays (days : Int) : (ofDays days).toDays = days := by
  obtain ⟨era, year, day, hyear, hday, hdays, hdate⟩ := exists_yearDay days
  rw [hdate, toDays_ofYearDay era hyear hday]
  exact hdays.symm

end LogLens.Date
