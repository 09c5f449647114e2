import LogLens.Proofs.Decimal.Reading
import LogLens.Proofs.Text.Cut
import LogLens.Proofs.Time.Rfc3339

/-!
# What a calendar and a clock show, in writing

The parts of a date and a time can be told apart in their text. The year is written as an integer, of
any length; behind it month and day are of a fixed length. No letter is in a date, so the `T` that
follows it is the first one. In a time every part but the last ends at a mark that is no digit, and
the last one has three digits. An offset shows its sign, its hours and its minutes, which is all of it
when it has no seconds.

## Main results

* `denotes_yearText`, `dateText_inj` — the text of a date is that of no other date.
* `timeText_append_inj` — a time is read off the beginning of a text.
* `offsetText_inj` — offsets of whole minutes differ in their texts.
-/

namespace LogLens

namespace Clockface

theorem padded_inj {width a b : Nat} (h : padded width a = padded width b) : a = b := by
  rw [← ofDigitChars_padded width a, h, ofDigitChars_padded]

theorem not_mem_padded {mark : Char} (h : mark.isDigit = false) (width n : Nat) :
    mark ∉ padded width n := by
  intro hmem
  have hdigit := isDigit_padded width n mark hmem
  rw [h] at hdigit
  cases hdigit

/-- A year is written as an integer that denotes it. -/
theorem denotes_yearText (year : Int) : Decimal.Denotes (yearText year) year := by
  have hdigits := isDigit_padded 4 year.natAbs
  have hvalue := ofDigitChars_padded 4 year.natAbs
  have hne : padded 4 year.natAbs ≠ [] := by
    have hlength := le_length_padded 4 year.natAbs
    intro hnil
    rw [hnil] at hlength
    simp at hlength
  unfold yearText
  by_cases hplain : 0 ≤ year ∧ year ≤ 9999
  · have hbare := Decimal.Denotes.bare hne hdigits
    rw [hvalue, show (year.natAbs : Int) = year by omega] at hbare
    rwa [if_pos hplain]
  · rw [if_neg hplain]
    by_cases hneg : year < 0
    · have hminus := Decimal.Denotes.minus hne hdigits
      rw [hvalue, show -(year.natAbs : Int) = year by omega] at hminus
      rwa [if_pos hneg]
    · have hplus := Decimal.Denotes.plus hne hdigits
      rw [hvalue, show (year.natAbs : Int) = year by omega] at hplus
      rwa [if_neg hneg]

theorem yearText_inj {year year' : Int} (h : yearText year = yearText year') : year = year' := by
  have hread := Decimal.integer?_of_denotes (denotes_yearText year)
  rw [h, Decimal.integer?_of_denotes (denotes_yearText year')] at hread
  exact (Option.some.inj hread).symm

section

variable {c c' : Clockface}

/-- Behind the year a date has the same length in all years. -/
theorem dateText_inj (hvalid : c.date.isValid = true) (hvalid' : c'.date.isValid = true)
    (h : c.dateText = c'.dateText) : c.date = c'.date := by
  have htwo : ∀ n < 100, (padded 2 n).length = 2 := fun n hn => length_padded (by decide) hn
  obtain ⟨-, hmonth, -, hday⟩ := of_decide_eq_true hvalid
  obtain ⟨-, hmonth', -, hday'⟩ := of_decide_eq_true hvalid'
  have hdays := Date.daysInMonth_le c.date.year c.date.month
  have hdays' := Date.daysInMonth_le c'.date.year c'.date.month
  unfold dateText at h
  obtain ⟨h, hdayText⟩ := List.append_inj' h (by simp [htwo _ (show c.date.day < 100 by omega),
    htwo _ (show c'.date.day < 100 by omega)])
  obtain ⟨hyearText, hmonthText⟩ := List.append_inj' h (by
    simp [htwo _ (show c.date.month < 100 by omega), htwo _ (show c'.date.month < 100 by omega)])
  have hyearEq := yearText_inj hyearText
  have hmonthEq := padded_inj (List.cons.inj hmonthText).2
  have hdayEq := padded_inj (List.cons.inj hdayText).2
  calc
    c.date = ⟨c.date.year, c.date.month, c.date.day⟩ := rfl
    _ = ⟨c'.date.year, c'.date.month, c'.date.day⟩ := by rw [hyearEq, hmonthEq, hdayEq]
    _ = c'.date := rfl

theorem not_mem_dateText (c : Clockface) : 'T' ∉ c.dateText := by
  have hyear : 'T' ∉ yearText c.date.year := by
    intro hmem
    have hread := Decimal.integer?_of_denotes (denotes_yearText c.date.year)
    have hnumeric := Decimal.numeric_of_integer? hread _ hmem
    revert hnumeric
    decide
  simp [dateText, hyear, not_mem_padded]

/-- The text of a time ends with three digits, so what follows it is known. -/
theorem timeText_append_inj (hnanos : c.nanos < 1000000000) (hnanos' : c'.nanos < 1000000000)
    {rest rest' : List Char} (h : c.timeText 3 ++ rest = c'.timeText 3 ++ rest') :
    (c.hour = c'.hour ∧ c.minute = c'.minute ∧ c.second = c'.second ∧
      c.nanos / 1000000 = c'.nanos / 1000000) ∧ rest = rest' := by
  have hcolon := not_mem_padded (show ':'.isDigit = false from rfl) 2
  have hpoint := not_mem_padded (show '.'.isDigit = false from rfl) 2
  have hthree : ∀ n < 1000, (padded 3 n).length = 3 := fun n hn => length_padded (by decide) hn
  simp only [timeText, List.append_assoc, List.cons_append] at h
  obtain ⟨hhour, h⟩ := Text.append_cons_inj (hcolon _) (hcolon _) h
  obtain ⟨hminute, h⟩ := Text.append_cons_inj (hcolon _) (hcolon _) h
  obtain ⟨hsecond, h⟩ := Text.append_cons_inj (hpoint _) (hpoint _) h
  rw [show Nat.pow 10 (9 - 3) = 1000000 from rfl] at h
  obtain ⟨hmillis, hrest⟩ := List.append_inj h
    ((hthree _ (by omega)).trans (hthree _ (by omega)).symm)
  exact ⟨⟨padded_inj hhour, padded_inj hminute, padded_inj hsecond, padded_inj hmillis⟩, hrest⟩

end

/-- Offsets of whole minutes are written without a loss. -/
theorem offsetText_inj {offset offset' : Int} (hwhole : offset % 60 = 0) (hwhole' : offset' % 60 = 0)
    (h : offsetText offset = offsetText offset') : offset = offset' := by
  have hcolon := not_mem_padded (show ':'.isDigit = false from rfl) 2
  simp only [offsetText, List.cons_append] at h
  obtain ⟨hsign, h⟩ := List.cons.inj h
  obtain ⟨hhours, hminutes⟩ := Text.append_cons_inj (hcolon _) (hcolon _) h
  have hhoursEq := padded_inj hhours
  have hminutesEq := padded_inj hminutes
  -- Zero is written with a plus sign, so the signs tell on which side of it an offset is.
  have hsame : offset < 0 ↔ offset' < 0 := by
    by_cases hneg : offset < 0 <;> by_cases hneg' : offset' < 0 <;> simp [hneg, hneg'] at hsign ⊢
  omega

end Clockface

end LogLens
