import LogLens.Decimal.Reading
import LogLens.Decimal.Text
import LogLens.Text.Blank

/-!
# Reading numbers

A text that is read as a number consists of digits, signs, points and exponent letters. So a text
with any other character in it is no number. A text of an optional sign and one or more digits is
read as the integer that it denotes, whatever its leading zeros. What is written for an integer is
such a text, so no two integers are written alike.

## Main results

* `numeric_of_integer?`, `numeric_of_real?` — the characters of a text that is read as a number.
* `integer?_of_denotes` — reading a sign and digits.
* `integer?_intText` — reading what was written for an integer.
-/

namespace LogLens.Decimal

/-- The characters that numbers are written with. -/
def isNumeric (c : Char) : Bool :=
  (digit? c).isSome || c == '+' || c == '-' || c == '.' || c == 'e' || c == 'E'

theorem le_of_digit? {c : Char} {d : Nat} (h : digit? c = some d) : d ≤ 9 := by
  unfold digit? at h
  split at h
  · next hc =>
      have hle : c.toNat ≤ '9'.toNat := hc.2
      have hd := Option.some.inj h
      simp only [show '9'.toNat = 57 from rfl, show '0'.toNat = 48 from rfl] at hle hd
      omega
  · cases h

theorem isNumeric_of_digit? {c : Char} {d : Nat} (h : digit? c = some d) : isNumeric c = true := by
  simp [isNumeric, h]

theorem not_blank_of_isNumeric {c : Char} (h : isNumeric c = true) : Text.isBlank c = false := by
  have hrange : 32 < c.toNat ∧ c.toNat < 127 := by
    simp only [isNumeric, Bool.or_eq_true, beq_iff_eq] at h
    rcases h with ((((hdigit | rfl) | rfl) | rfl) | rfl) | rfl
    · obtain ⟨d, hd⟩ := Option.isSome_iff_exists.1 hdigit
      unfold digit? at hd
      split at hd
      · next hc =>
          have hlower : '0'.toNat ≤ c.toNat := hc.1
          have hupper : c.toNat ≤ '9'.toNat := hc.2
          exact ⟨Nat.lt_of_lt_of_le (by decide) hlower, Nat.lt_of_le_of_lt hupper (by decide)⟩
      · cases hd
    all_goals decide
  simp only [Text.isBlank]
  grind

/-- What is left after the digits lacks numeric characters only. -/
theorem digits_rest (acc : Nat) (cs : List Char) :
    ∃ ds, cs = ds ++ (digits acc cs).2.2 ∧ ∀ d ∈ ds, isNumeric d = true := by
  induction cs generalizing acc with
  | nil => exact ⟨[], rfl, by simp⟩
  | cons c cs ih =>
      cases hdigit : digit? c with
      | none => exact ⟨[], by simp [digits, hdigit], by simp⟩
      | some d =>
          obtain ⟨ds, hds, hnumeric⟩ := ih (acc * 10 + d)
          refine ⟨c :: ds, ?_, List.forall_mem_cons.2 ⟨isNumeric_of_digit? hdigit, hnumeric⟩⟩
          simp only [digits, hdigit, List.cons_append]
          rw [← hds]

theorem sign_rest (cs : List Char) :
    ∃ ds, cs = ds ++ (sign cs).2 ∧ ∀ d ∈ ds, isNumeric d = true := by
  unfold sign
  split
  · exact ⟨['-'], rfl, by simp [isNumeric]⟩
  · exact ⟨['+'], rfl, by simp [isNumeric]⟩
  · exact ⟨[], rfl, by simp⟩

theorem numeric_of_integer? {cs : List Char} {i : Int} (h : integer? cs = some i) :
    ∀ c ∈ cs, isNumeric c = true := by
  obtain ⟨ss, hss, hsign⟩ := sign_rest cs
  obtain ⟨ds, hds, hdigits⟩ := digits_rest 0 (sign cs).2
  have hend : (digits 0 (sign cs).2).2.2 = [] := by
    simp only [integer?] at h
    split at h
    · next hread => rw [hread]
    · cases h
  rw [hend, List.append_nil] at hds
  rw [hss, hds]
  exact List.forall_mem_append.2 ⟨hsign, hdigits⟩

theorem numeric_of_exponentPart? {cs : List Char} {e : Int} (h : exponentPart? cs = some e) :
    ∀ c ∈ cs, isNumeric c = true := by
  cases cs with
  | nil => simp
  | cons c cs =>
      simp only [exponentPart?] at h
      split at h
      · next hmark =>
          refine List.forall_mem_cons.2 ⟨?_, numeric_of_integer? h⟩
          rcases hmark with rfl | rfl <;> decide
      · cases h

theorem numeric_of_real? {cs : List Char} {x : Binary64} (h : real? cs = some x) :
    ∀ c ∈ cs, isNumeric c = true := by
  obtain ⟨ss, hss, hsign⟩ := sign_rest cs
  obtain ⟨ds, hds, hdigits⟩ := digits_rest 0 (sign cs).2
  have hrest : ∀ c ∈ (digits 0 (sign cs).2).2.2, isNumeric c = true := by
    simp only [real?] at h
    split at h
    · next fraction hpoint =>
        split at h
        · cases h
        · obtain ⟨e, he, -⟩ := Option.map_eq_some_iff.1 h
          obtain ⟨fs, hfs, hfraction⟩ := digits_rest (digits 0 (sign cs).2).1 fraction
          rw [hpoint, hfs]
          exact List.forall_mem_cons.2
            ⟨by decide, List.forall_mem_append.2 ⟨hfraction, numeric_of_exponentPart? he⟩⟩
    · split at h
      · cases h
      · obtain ⟨e, he, -⟩ := Option.map_eq_some_iff.1 h
        exact numeric_of_exponentPart? he
  rw [hss, hds]
  exact List.forall_mem_append.2 ⟨hsign, List.forall_mem_append.2 ⟨hdigits, hrest⟩⟩

/-! ## Written integers -/

theorem digit?_of_isDigit {c : Char} (h : c.isDigit = true) :
    digit? c = some (c.toNat - '0'.toNat) := by
  simp only [Char.isDigit, Bool.and_eq_true, decide_eq_true_eq] at h
  exact if_pos h

theorem digits_value {cs : List Char} (h : ∀ c ∈ cs, c.isDigit = true) (acc : Nat) :
    digits acc cs = (Nat.ofDigitChars 10 cs acc, cs.length, []) := by
  induction cs generalizing acc with
  | nil => rfl
  | cons c cs ih =>
      obtain ⟨hc, hcs⟩ := List.forall_mem_cons.1 h
      rw [Nat.ofDigitChars_cons, Nat.mul_comm]
      simp only [digits, digit?_of_isDigit hc, ih hcs, List.length_cons]

theorem isDigit_of_mem_toDigits {n : Nat} {c : Char} (h : c ∈ Nat.toDigits 10 n) :
    c.isDigit = true :=
  Nat.isDigit_of_mem_toDigits (by decide) (by decide) h

/-- An optional sign and one or more digits denote an integer; zeros at the beginning do not count. -/
inductive Denotes : List Char → Int → Prop where
  | bare {ds : List Char} (hne : ds ≠ []) (hdigits : ∀ c ∈ ds, c.isDigit = true) :
    Denotes ds (Nat.ofDigitChars 10 ds 0)
  | plus {ds : List Char} (hne : ds ≠ []) (hdigits : ∀ c ∈ ds, c.isDigit = true) :
    Denotes ('+' :: ds) (Nat.ofDigitChars 10 ds 0)
  | minus {ds : List Char} (hne : ds ≠ []) (hdigits : ∀ c ∈ ds, c.isDigit = true) :
    Denotes ('-' :: ds) (-(Nat.ofDigitChars 10 ds 0 : Int))

/-- Digits begin with no sign. -/
theorem sign_of_digits {ds : List Char} (h : ∀ c ∈ ds, c.isDigit = true) :
    sign ds = (false, ds) := by
  unfold sign
  split
  · exact absurd (h '-' List.mem_cons_self) (by decide)
  · exact absurd (h '+' List.mem_cons_self) (by decide)
  · rfl

/-- What a sign and digits denote is what they are read as. -/
theorem integer?_of_denotes {token : List Char} {i : Int} (h : Denotes token i) :
    integer? token = some i := by
  have hread : ∀ ds : List Char, ds ≠ [] → (∀ c ∈ ds, c.isDigit = true) →
      digits 0 ds = (Nat.ofDigitChars 10 ds 0, ds.length - 1 + 1, []) := by
    intro ds hne hdigits
    rw [digits_value hdigits, Nat.sub_add_cancel (List.length_pos_iff.2 hne)]
  cases h with
  | bare hne hdigits =>
      simp only [integer?, sign_of_digits hdigits, hread _ hne hdigits, Bool.false_eq_true, if_false]
  | plus hne hdigits =>
      simp only [integer?, sign, hread _ hne hdigits, Bool.false_eq_true, if_false]
  | minus hne hdigits =>
      simp only [integer?, sign, hread _ hne hdigits, if_true]

/-- What is written for an integer denotes that integer. -/
theorem denotes_intText (i : Int) : Denotes (intText i).toList i := by
  have hdigits : ∀ c ∈ Nat.toDigits 10 i.natAbs, c.isDigit = true :=
    fun c => isDigit_of_mem_toDigits
  by_cases hneg : i < 0
  · have hminus := Denotes.minus Nat.toDigits_ne_nil hdigits
    rw [Nat.ofDigitChars_ten_toDigits, show -(i.natAbs : Int) = i by omega] at hminus
    simpa [intText, natText, hneg] using hminus
  · have hbare := Denotes.bare Nat.toDigits_ne_nil hdigits
    rw [Nat.ofDigitChars_ten_toDigits, show (i.natAbs : Int) = i by omega] at hbare
    simpa [intText, natText, hneg] using hbare

/-- What is written for an integer is read as that integer. -/
theorem integer?_intText (i : Int) : integer? (intText i).toList = some i :=
  integer?_of_denotes (denotes_intText i)

/-- No two integers are written alike. -/
theorem intText_inj {i j : Int} : intText i = intText j ↔ i = j := by
  refine ⟨fun h => ?_, congrArg intText⟩
  have hread := integer?_intText i
  rw [h, integer?_intText] at hread
  exact (Option.some.inj hread).symm

end LogLens.Decimal
