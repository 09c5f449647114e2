import LogLens.Proofs.Except
import LogLens.Proofs.Time.Calendar
import LogLens.Time.Rfc3339

/-!
# Timestamps that are read again

What is written for an instant is read again as that instant, cut down to the digits that were
written, as long as its year has four digits. A leap second is written as second 60, so it has to be
the last second of its minute; every instant that is read off a timestamp or a number of
milliseconds is one of that kind.

## Main results

* `read_write` — a timestamp with three digits of the fraction is read as whole milliseconds.
* `endsMinute_read`, `endsMinute_ofMillis?` — leap seconds stand at the end of a minute.
-/

namespace LogLens

/-- A leap second ends a minute. -/
def Instant.EndsMinute (t : Instant) : Prop := 1000000000 ≤ t.nanos → t.seconds % 60 = 59

/-! ## Digits -/

namespace Clockface

theorem isDigit_padded (width n : Nat) : ∀ c ∈ padded width n, c.isDigit = true := by
  intro c hc
  rcases List.mem_append.1 hc with hzero | hdigit
  · obtain ⟨-, rfl⟩ := List.mem_replicate.1 hzero
    decide
  · exact Nat.isDigit_of_mem_toDigits (by decide) (by decide) hdigit

theorem length_padded {width n : Nat} (hwidth : 0 < width) (h : n < 10 ^ width) :
    (padded width n).length = width := by
  have hlength := (Nat.length_toDigits_le_iff (b := 10) (by decide) hwidth).2 h
  rw [padded, List.length_append, List.length_replicate]
  omega

theorem le_length_padded (width n : Nat) : width ≤ (padded width n).length := by
  rw [padded, List.length_append, List.length_replicate]
  omega

theorem ofDigitChars_padded (width n : Nat) : Nat.ofDigitChars 10 (padded width n) 0 = n := by
  rw [padded, Nat.ofDigitChars_append, Nat.ofDigitChars_replicate_zero, Nat.mul_zero,
    Nat.ofDigitChars_ten_toDigits]

end Clockface

namespace Rfc3339

open Clockface (padded)

theorem isDigit_iff {c : Char} : c.isDigit = true ↔ '0' ≤ c ∧ c ≤ '9' := by
  simp [Char.isDigit, Char.le_def]

/-- As many digits as are asked for are read as their number. -/
theorem number_digits {digits : List Char} (h : ∀ c ∈ digits, c.isDigit = true) (n : Nat)
    (rest : List Char) :
    number n digits.length (digits ++ rest) = .ok (Nat.ofDigitChars 10 digits n, rest) := by
  induction digits generalizing n with
  | nil => rfl
  | cons c cs ih =>
      obtain ⟨hc, hcs⟩ := List.forall_mem_cons.1 h
      rw [List.length_cons, List.cons_append, number, if_pos (isDigit_iff.1 hc), ih hcs,
        Nat.ofDigitChars_cons, Nat.mul_comm n]
      rfl

theorem number_padded {width n : Nat} (hwidth : 0 < width) (h : n < 10 ^ width)
    (rest : List Char) : number 0 width (padded width n ++ rest) = .ok (n, rest) := by
  have hread := number_digits (Clockface.isDigit_padded width n) 0 rest
  rwa [Clockface.length_padded hwidth h, Clockface.ofDigitChars_padded] at hread

/-- Fewer digits than are asked for are read as if zeros followed. -/
theorem fractionDigits_digits {digits : List Char} (h : ∀ c ∈ digits, c.isDigit = true) (n : Nat)
    {missing count : Nat} (hcount : count = digits.length + (missing + 1)) {c : Char}
    (hc : c.isDigit = false) (rest : List Char) :
    fractionDigits n count (digits ++ c :: rest) =
      (Nat.ofDigitChars 10 digits n * 10 ^ (missing + 1), c :: rest) := by
  induction digits generalizing n count with
  | nil =>
      have hstop : ¬('0' ≤ c ∧ c ≤ '9') := by rw [← isDigit_iff, hc]; decide
      rw [hcount, List.length_nil, Nat.zero_add, List.nil_append, fractionDigits, if_neg hstop]
      rfl
  | cons d ds ih =>
      obtain ⟨hd, hds⟩ := List.forall_mem_cons.1 h
      rw [List.length_cons, Nat.add_right_comm] at hcount
      rw [hcount, List.cons_append, fractionDigits, if_pos (isDigit_iff.1 hd), ih hds _ rfl,
        Nat.ofDigitChars_cons, Nat.mul_comm n]
      rfl

/-- A fraction of three digits. -/
theorem fraction_padded {n : Nat} (h : n < 1000) {c : Char} (hc : c.isDigit = false)
    (rest : List Char) :
    fraction ('.' :: padded 3 n ++ c :: rest) = .ok (n * 1000000, c :: rest) := by
  have hdigits := Clockface.isDigit_padded 3 n
  have hlength : (padded 3 n).length = 3 := Clockface.length_padded (by decide) h
  have hvalue := Clockface.ofDigitChars_padded 3 n
  have hstop : ¬('0' ≤ c ∧ c ≤ '9') := by rw [← isDigit_iff, hc]; decide
  cases hpadded : padded 3 n with
  | nil => rw [hpadded] at hlength; cases hlength
  | cons d ds =>
      rw [hpadded] at hdigits hlength hvalue
      have hcount : 9 = (d :: ds).length + (5 + 1) := by rw [hlength]
      have hread := fractionDigits_digits hdigits 0 hcount hc rest
      rw [hvalue, List.cons_append] at hread
      simp only [List.cons_append, fraction, if_pos (isDigit_iff.1 (hdigits d List.mem_cons_self)),
        hread, dropDigits, if_neg hstop]
      rfl

/-! ## Reading what is written -/

theorem mark_self (c : Char) (rest : List Char) : mark [c] (c :: rest) = .ok rest := by
  simp [mark]

/-- A date whose year has four digits. -/
theorem date_dateText {c : Clockface} (hyear : 0 ≤ c.date.year ∧ c.date.year ≤ 9999)
    (hvalid : c.date.isValid = true) (rest : List Char) :
    date (c.dateText ++ rest) = .ok (c.date, rest) := by
  obtain ⟨-, hmonth, -, hday⟩ := of_decide_eq_true hvalid
  have hdays := Date.daysInMonth_le c.date.year c.date.month
  have habs : (c.date.year.natAbs : Int) = c.date.year := by omega
  have hyearDigits : ∀ rest, number 0 4 (padded 4 c.date.year.natAbs ++ rest) = _ :=
    number_padded (by decide) (by omega)
  have hmonthDigits : ∀ rest, number 0 2 (padded 2 c.date.month ++ rest) = _ :=
    number_padded (by decide) (by omega)
  have hdayDigits : ∀ rest, number 0 2 (padded 2 c.date.day ++ rest) = _ :=
    number_padded (by decide) (by omega)
  simp only [Clockface.dateText, Clockface.yearText, if_pos hyear, List.append_assoc,
    List.cons_append, date, hyearDigits, hmonthDigits, hdayDigits, ok_bind, mark_self, habs, hvalid,
    if_true]

/-- A time with three digits of the fraction. Second 60 is the second before it and a billion
nanoseconds. -/
theorem time_timeText {c : Clockface} (hhour : c.hour ≤ 23) (hminute : c.minute ≤ 59)
    (hsecond : c.second ≤ 60) (hnanos : c.nanos < 1000000000) {mark : Char}
    (hmark : mark.isDigit = false) (rest : List Char) :
    time (c.timeText 3 ++ mark :: rest) =
      .ok ((c.hour * 3600 + c.minute * 60 + min c.second 59,
        c.nanos / 1000000 * 1000000 + if c.second = 60 then 1000000000 else 0), mark :: rest) := by
  have hhourDigits : ∀ rest, number 0 2 (padded 2 c.hour ++ rest) = _ :=
    number_padded (by decide) (by omega)
  have hminuteDigits : ∀ rest, number 0 2 (padded 2 c.minute ++ rest) = _ :=
    number_padded (by decide) (by omega)
  have hsecondDigits : ∀ rest, number 0 2 (padded 2 c.second ++ rest) = _ :=
    number_padded (by decide) (by omega)
  have hfraction := fraction_padded (n := c.nanos / 1000000) (by omega) hmark rest
  have hrange : ¬(23 < c.hour ∨ 59 < c.minute ∨ 60 < c.second) := by omega
  rw [List.cons_append] at hfraction
  simp only [Clockface.timeText, List.append_assoc, List.cons_append, time, hhourDigits,
    hminuteDigits, hsecondDigits, ok_bind, mark_self]
  rw [show c.nanos / Nat.pow 10 (9 - 3) = c.nanos / 1000000 from rfl, hfraction]
  simp only [ok_bind, if_neg hrange]
  by_cases hleap : c.second = 60
  · rw [if_pos hleap, if_pos hleap, hleap]
    rfl
  · rw [if_neg hleap, if_neg hleap, Nat.add_zero, Nat.min_eq_left (by omega)]

/-- Text is at least as many bytes as characters. -/
theorem length_le_byteCount (text : List Char) : text.length ≤ Text.byteCount text := by
  induction text with
  | nil => exact Nat.le_refl 0
  | cons c cs ih =>
      rw [List.length_cons, Text.byteCount]
      have hsize := Char.utf8Size_pos c
      omega

theorem le_byteCount_write {c : Clockface} (hyear : 0 ≤ c.date.year ∧ c.date.year ≤ 9999) :
    19 ≤ Text.byteCount (c.dateText ++ 'T' :: c.timeText 3 ++ ['Z']) := by
  have hyearDigits := Clockface.le_length_padded 4 c.date.year.natAbs
  have hmonthDigits := Clockface.le_length_padded 2 c.date.month
  have hdayDigits := Clockface.le_length_padded 2 c.date.day
  have hhourDigits := Clockface.le_length_padded 2 c.hour
  have hminuteDigits := Clockface.le_length_padded 2 c.minute
  have hsecondDigits := Clockface.le_length_padded 2 c.second
  refine Nat.le_trans ?_ (length_le_byteCount _)
  simp only [Clockface.dateText, Clockface.yearText, if_pos hyear, Clockface.timeText,
    List.length_append, List.length_cons, List.length_nil]
  omega

/-- What a calendar and a clock at Greenwich show is read as the second and the nanoseconds they
show. -/
theorem read_clockface {c : Clockface} (hyear : 0 ≤ c.date.year ∧ c.date.year ≤ 9999)
    (hvalid : c.date.isValid = true) (hhour : c.hour ≤ 23) (hminute : c.minute ≤ 59)
    (hsecond : c.second ≤ 60) (hnanos : c.nanos < 1000000000) :
    read (c.dateText ++ 'T' :: c.timeText 3 ++ ['Z']) =
      instant (c.date.toDays * 86400 + (c.hour * 3600 + c.minute * 60 + min c.second 59 : Nat))
        (c.nanos / 1000000 * 1000000 + if c.second = 60 then 1000000000 else 0) := by
  have hlong := Nat.not_lt.2 (le_byteCount_write hyear)
  have hdate := date_dateText hyear hvalid ('T' :: (c.timeText 3 ++ ['Z']))
  have htime := time_timeText hhour hminute hsecond hnanos (show 'Z'.isDigit = false from rfl) []
  have hmark : mark ['T', 't', ' '] ('T' :: (c.timeText 3 ++ ['Z'])) =
      .ok (c.timeText 3 ++ ['Z']) := rfl
  have hoffset : offset ['Z'] = .ok (0, []) := rfl
  have hsmall : ¬86400 ≤ (0 : Int).natAbs := by decide
  rw [read, if_neg hlong, List.append_assoc, List.cons_append, hdate, ok_bind]
  dsimp only
  rw [hmark, ok_bind, htime, ok_bind]
  dsimp only
  rw [hoffset, ok_bind]
  dsimp only
  rw [if_neg (by decide), if_neg hsmall, Int.sub_zero]

/-- What is shown for an instant at some offset: its day, hour and minute, and its second of the
minute, which is one more in a leap second. -/
theorem clockface_spec (offset : Int) (t : Instant) {c : Clockface}
    (hc : Clockface.of offset t = c) :
    c.date.isValid = true ∧ c.hour ≤ 23 ∧ c.minute ≤ 59 ∧
      (c.second : Int) = (t.seconds + offset) % 60 + (t.nanos / 1000000000 : Nat) ∧
      c.nanos = t.nanos % 1000000000 ∧
      c.date.toDays * 86400 + (c.hour * 3600 + c.minute * 60 + c.second : Nat) =
        t.seconds + offset + (t.nanos / 1000000000 : Nat) := by
  obtain ⟨ofDay, hofDay⟩ := Int.eq_ofNat_of_zero_le
    (Int.fmod_nonneg_of_pos (t.seconds + offset) (show (0 : Int) < 86400 by decide))
  have hlt := Int.fmod_lt_of_pos (t.seconds + offset) (show (0 : Int) < 86400 by decide)
  have hdivision := Int.mul_fdiv_add_fmod (t.seconds + offset) 86400
  rw [hofDay] at hlt hdivision
  subst hc
  simp only [Clockface.of, hofDay, Int.toNat_natCast, Date.isValid_ofDays, Date.toDays_ofDays,
    true_and]
  refine ⟨?_, ?_, ?_, ?_⟩ <;> omega

/-- At Greenwich the second 60 is shown for leap seconds only, when these end a minute. -/
theorem clockface_greenwich {t : Instant} (hleap : t.EndsMinute) {c : Clockface}
    (hc : Clockface.of 0 t = c) :
    c.date.isValid = true ∧ c.hour ≤ 23 ∧ c.minute ≤ 59 ∧ c.second ≤ 60 ∧ c.nanos < 1000000000 ∧
      c.date.toDays * 86400 + (c.hour * 3600 + c.minute * 60 + min c.second 59 : Nat) = t.seconds ∧
      (c.nanos + if c.second = 60 then 1000000000 else 0) = t.nanos := by
  have hnanos := t.nanos_lt
  unfold Instant.EndsMinute at hleap
  obtain ⟨hvalid, hhour, hminute, hsecond, hfraction, htotal⟩ := clockface_spec 0 t hc
  refine ⟨hvalid, hhour, hminute, ?_⟩
  split_ifs <;> omega

/-- What is written for an instant is read as its whole milliseconds. -/
theorem read_write {t : Instant} (hleap : t.EndsMinute)
    (hyear : 0 ≤ (Clockface.of 0 t).date.year ∧ (Clockface.of 0 t).date.year ≤ 9999) :
    read (write 3 t).toList = .ok t.wholeMillis := by
  obtain ⟨c, hc⟩ : ∃ c, Clockface.of 0 t = c := ⟨_, rfl⟩
  obtain ⟨hvalid, hhour, hminute, hsecond, hnanos, hseconds, htotal⟩ :=
    clockface_greenwich hleap hc
  rw [hc] at hyear
  have hwhole : (c.nanos / 1000000 * 1000000 + if c.second = 60 then 1000000000 else 0) =
      t.nanos / 1000000 * 1000000 := by
    rw [← htotal]
    split_ifs <;> omega
  rw [write, hc, String.toList_ofList, read_clockface hyear hvalid hhour hminute hsecond hnanos,
    hseconds, hwhole]
  exact dif_pos t.wholeMillis.nanos_lt

/-! ## Leap seconds -/

theorem fractionDigits_lt (n count : Nat) (text : List Char) :
    (fractionDigits n count text).1 < (n + 1) * 10 ^ count := by
  have hstop (n count : Nat) : n * 10 ^ count < (n + 1) * 10 ^ count :=
    Nat.mul_lt_mul_of_pos_right (Nat.lt_succ_self n) (Nat.pow_pos (by decide))
  induction count generalizing n text with
  | zero => simp [fractionDigits]
  | succ count ih =>
      cases text with
      | nil => exact hstop n (count + 1)
      | cons c cs =>
          unfold fractionDigits
          split
          · next hdigit =>
              have hnine : c.toNat - 48 ≤ 9 := by
                have hle : c.toNat ≤ '9'.toNat := UInt32.le_iff_toNat_le.1 hdigit.2
                have hvalue : '9'.toNat = 57 := rfl
                omega
              refine Nat.lt_of_lt_of_le (ih _ cs) ?_
              rw [Nat.pow_succ, Nat.mul_comm (10 ^ count), ← Nat.mul_assoc]
              exact Nat.mul_le_mul_right _ (by omega)
          · exact hstop n (count + 1)

theorem fraction_lt {text rest : List Char} {nanos : Nat}
    (h : fraction text = .ok (nanos, rest)) : nanos < 1000000000 := by
  unfold fraction at h
  split at h
  · cases h
  · next c cs =>
      split at h
      · have hlt := fractionDigits_lt 0 9 (c :: cs)
        obtain ⟨rfl, -⟩ := Prod.mk.inj (Except.ok.inj h)
        exact hlt
      · cases h
  · obtain ⟨rfl, -⟩ := Prod.mk.inj (Except.ok.inj h)
    decide

/-- A time with a billion nanoseconds or more is in the last second of its minute. -/
theorem time_leap {text rest : List Char} {second nanos : Nat}
    (h : time text = .ok ((second, nanos), rest)) (hleap : 1000000000 ≤ nanos) :
    second % 60 = 59 := by
  unfold time at h
  obtain ⟨⟨hour, text₁⟩, -, h⟩ := bind_eq_ok.1 h
  obtain ⟨text₂, -, h⟩ := bind_eq_ok.1 h
  obtain ⟨⟨minute, text₃⟩, -, h⟩ := bind_eq_ok.1 h
  obtain ⟨text₄, -, h⟩ := bind_eq_ok.1 h
  obtain ⟨⟨seconds, text₅⟩, -, h⟩ := bind_eq_ok.1 h
  obtain ⟨⟨fractionNanos, text₆⟩, hfraction, h⟩ := bind_eq_ok.1 h
  have hlt := fraction_lt hfraction
  dsimp only at h
  split at h
  · cases h
  · split at h
    · obtain ⟨htime, -⟩ := Prod.mk.inj (Except.ok.inj h)
      obtain ⟨rfl, -⟩ := Prod.mk.inj htime
      omega
    · obtain ⟨htime, -⟩ := Prod.mk.inj (Except.ok.inj h)
      obtain ⟨-, rfl⟩ := Prod.mk.inj htime
      omega

theorem offsetFields_mod {text rest : List Char} {n : Nat}
    (h : offsetFields text = .ok (n, rest)) : n % 60 = 0 := by
  unfold offsetFields at h
  obtain ⟨⟨hours, text₁⟩, -, h⟩ := bind_eq_ok.1 h
  obtain ⟨text₂, -, h⟩ := bind_eq_ok.1 h
  obtain ⟨⟨minutes, text₃⟩, -, h⟩ := bind_eq_ok.1 h
  dsimp only at h
  split at h
  · cases h
  · obtain ⟨rfl, -⟩ := Prod.mk.inj (Except.ok.inj h)
    omega

/-- Offsets are whole minutes. -/
theorem offset_mod {text rest : List Char} {n : Int} (h : offset text = .ok (n, rest)) :
    n % 60 = 0 := by
  unfold offset at h
  split at h
  · cases h
  · split at h
    case h_1 | h_2 =>
      obtain ⟨rfl, -⟩ := Prod.mk.inj (Except.ok.inj h)
      rfl
    case h_3 | h_4 | h_5 =>
      obtain ⟨⟨m, text₁⟩, hfields, h⟩ := bind_eq_ok.1 h
      have hmod := offsetFields_mod hfields
      obtain ⟨rfl, -⟩ := Prod.mk.inj (Except.ok.inj h)
      omega
    case h_6 => cases h

theorem endsMinute_read {text : List Char} {t : Instant} (h : read text = .ok t) :
    t.EndsMinute := by
  unfold read at h
  split at h
  · cases h
  · obtain ⟨⟨date, text₁⟩, -, h⟩ := bind_eq_ok.1 h
    obtain ⟨text₂, -, h⟩ := bind_eq_ok.1 h
    obtain ⟨⟨⟨second, nanos⟩, text₃⟩, htime, h⟩ := bind_eq_ok.1 h
    obtain ⟨⟨offset, text₄⟩, hoffset, h⟩ := bind_eq_ok.1 h
    dsimp only at h
    split at h
    · cases h
    · split at h
      · cases h
      · unfold instant at h
        split at h
        · obtain rfl := Except.ok.inj h
          intro hleap
          have hsecond := time_leap htime hleap
          have hminutes := offset_mod hoffset
          dsimp only
          omega
        · cases h

end Rfc3339

theorem Instant.endsMinute_ofMillis? {millis : Int} {t : Instant}
    (h : Instant.ofMillis? millis = some t) : t.EndsMinute := by
  unfold Instant.ofMillis? at h
  split at h
  · obtain rfl := Option.some.inj h
    intro hnanos
    dsimp only at hnanos
    omega
  · cases h

end LogLens
