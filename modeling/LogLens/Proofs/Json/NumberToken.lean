import LogLens.Json.Numeral

/-!
# Numbers as tokens

A reader that takes a token off a text decides by the characters of the token alone, once it is
clear that the token ends where it does. A number has no closing mark: it ends at the end of the
text or before a character that no number goes on with, and after any such end the same characters
are read as the same number. `Tokenwise` says this of a reader.

The digits at one place of a numeral are taken together. Whatever comes after them, the loops over
digits leave the same word, the same count and the same digits behind.

## Main results

* `gather_digits`, `exponentDigits_digits`, `skipDigits_digits` — the loops over digits do not
  depend on what comes after the digits.
* `tokenwise_numeral` — a number is read by its own characters.
-/

namespace LogLens.Json

variable {α : Type}

/-- What may come after a token: the end of the text, or a character that no number goes on with. -/
def Stops (rest : List Char) : Prop :=
  startsWithDigit rest = false ∧ ∀ c ∈ rest.head?, c ≠ '.' ∧ isExponentMark c = false

/-- A reader that takes a token off a text, and takes the same token off wherever it may end. -/
def Tokenwise (reader : List Char → Except Fault (α × List Char)) : Prop :=
  ∀ text a rest, reader text = .ok (a, rest) →
    ∃ token, text = token ++ rest ∧ ∀ after, Stops after → reader (token ++ after) = .ok (a, after)

/-- Only digits. -/
def AllDigits (cs : List Char) : Prop := ∀ c ∈ cs, (Decimal.digit? c).isSome = true

theorem stops_nil : Stops [] := ⟨rfl, fun _ h => by cases h⟩

theorem stops_cons_iff {c : Char} {cs : List Char} :
    Stops (c :: cs) ↔ (Decimal.digit? c).isSome = false ∧ c ≠ '.' ∧ isExponentMark c = false := by
  simp [Stops, startsWithDigit]

/-- What comes after a beginning that is not empty does not decide whether a text starts with a
digit. -/
theorem startsWithDigit_append {token rest after : List Char}
    (h : startsWithDigit (token ++ rest) = false) (hafter : startsWithDigit after = false) :
    startsWithDigit (token ++ after) = false := by
  cases token with
  | nil => exact hafter
  | cons c cs => exact h

/-- What is read behind fixed characters is read by its own characters with them. -/
theorem Tokenwise.behind {reader next : List Char → Except Fault (α × List Char)}
    (h : Tokenwise next) (front : List Char) (heq : ∀ cs, reader (front ++ cs) = next cs)
    {text rest : List Char} {a : α} (hread : reader (front ++ text) = .ok (a, rest)) :
    ∃ token, front ++ text = token ++ rest ∧
      ∀ after, Stops after → reader (token ++ after) = .ok (a, after) := by
  rw [heq] at hread
  obtain ⟨token, rfl, htoken⟩ := h _ _ _ hread
  refine ⟨front ++ token, (List.append_assoc ..).symm, fun after hafter => ?_⟩
  rw [List.append_assoc, heq]
  exact htoken after hafter

/-- The same behind digits, which must not go on in what is read. -/
theorem Tokenwise.behind_digits {reader next : List Char → Except Fault (α × List Char)}
    (h : Tokenwise next) (front : List Char)
    (heq : ∀ cs, startsWithDigit cs = false → reader (front ++ cs) = next cs)
    {text rest : List Char} {a : α} (htext : startsWithDigit text = false)
    (hread : reader (front ++ text) = .ok (a, rest)) :
    ∃ token, front ++ text = token ++ rest ∧
      ∀ after, Stops after → reader (token ++ after) = .ok (a, after) := by
  rw [heq text htext] at hread
  obtain ⟨token, rfl, htoken⟩ := h _ _ _ hread
  refine ⟨front ++ token, (List.append_assoc ..).symm, fun after hafter => ?_⟩
  rw [List.append_assoc, heq _ (startsWithDigit_append htext hafter.1)]
  exact htoken after hafter

/-! ## The loops over digits -/

/-- The digits at the beginning of a text, and what comes after them. -/
theorem exists_digits (text : List Char) :
    ∃ digits after, text = digits ++ after ∧ AllDigits digits ∧ startsWithDigit after = false := by
  induction text with
  | nil => exact ⟨[], [], rfl, by simp [AllDigits], rfl⟩
  | cons c cs ih =>
      by_cases hc : (Decimal.digit? c).isSome = true
      · obtain ⟨digits, after, rfl, hdigits, hafter⟩ := ih
        exact ⟨c :: digits, after, rfl, List.forall_mem_cons.2 ⟨hc, hdigits⟩, hafter⟩
      · refine ⟨[], c :: cs, rfl, by simp [AllDigits], ?_⟩
        simpa [startsWithDigit] using hc

/-- A digit that is one has a value. -/
theorem AllDigits.exists_digit {c : Char} {cs : List Char} (h : AllDigits (c :: cs)) :
    (∃ d, Decimal.digit? c = some d) ∧ AllDigits cs :=
  ⟨Option.isSome_iff_exists.1 (h c List.mem_cons_self), fun x hx => h x (List.mem_cons_of_mem _ hx)⟩

theorem gather_of_stop {after : List Char} (h : startsWithDigit after = false) (word : Nat) :
    gather word after = (word, 0, after) := by
  cases after with
  | nil => rfl
  | cons c cs =>
      have hnone : Decimal.digit? c = none := by simpa [startsWithDigit] using h
      simp only [gather, hnone]

/-- The word that digits give, how many of them it takes, and those that do not fit. -/
theorem gather_digits {digits : List Char} (h : AllDigits digits) (word : Nat) :
    ∃ w count extra, count + extra.length = digits.length ∧ AllDigits extra ∧
      ∀ after, startsWithDigit after = false →
        gather word (digits ++ after) = (w, count, extra ++ after) := by
  induction digits generalizing word with
  | nil => exact ⟨word, 0, [], rfl, h, fun after hafter => gather_of_stop hafter word⟩
  | cons c cs ih =>
      obtain ⟨⟨d, hd⟩, hcs⟩ := h.exists_digit
      by_cases hbig : maxWord < word * 10 + d
      · refine ⟨word, 0, c :: cs, by simp, h, fun after _ => ?_⟩
        simp only [List.cons_append, gather, hd, hbig, if_true]
      · obtain ⟨w, count, extra, hcount, hextra, hgather⟩ := ih hcs (word * 10 + d)
        refine ⟨w, count + 1, extra, ?_, hextra, fun after hafter => ?_⟩
        · rw [List.length_cons]
          omega
        · simp only [List.cons_append, gather, hd, hbig, if_false, hgather after hafter]

theorem skipDigits_digits {digits : List Char} (h : AllDigits digits) {after : List Char}
    (hafter : startsWithDigit after = false) :
    skipDigits (digits ++ after) = (digits.length, after) := by
  induction digits with
  | nil =>
      cases after with
      | nil => rfl
      | cons c cs =>
          have hc : ¬(Decimal.digit? c).isSome = true := by simpa [startsWithDigit] using hafter
          simp only [List.nil_append, skipDigits, hc]
          rfl
  | cons c cs ih =>
      have hc := h c List.mem_cons_self
      simp only [List.cons_append, skipDigits, hc, if_true, ih h.exists_digit.2, List.length_cons]

/-- The exponent that digits give, or the digits that come after the one that is too much. -/
theorem exponentDigits_digits {digits : List Char} (h : AllDigits digits) (e : Nat) :
    (∃ e', ∀ after, startsWithDigit after = false →
        exponentDigits e (digits ++ after) = .ok (e', after)) ∨
      ∃ extra, AllDigits extra ∧
        ∀ after, exponentDigits e (digits ++ after) = .error (extra ++ after) := by
  induction digits generalizing e with
  | nil =>
      refine .inl ⟨e, fun after hafter => ?_⟩
      cases after with
      | nil => rfl
      | cons c cs =>
          have hnone : Decimal.digit? c = none := by simpa [startsWithDigit] using hafter
          simp only [List.nil_append, exponentDigits, hnone]
  | cons c cs ih =>
      obtain ⟨⟨d, hd⟩, hcs⟩ := h.exists_digit
      by_cases hbig : maxExponent < e * 10 + d
      · refine .inr ⟨cs, hcs, fun after => ?_⟩
        simp only [List.cons_append, exponentDigits, hd, hbig, if_true]
      · simp only [List.cons_append, exponentDigits, hd, hbig, if_false]
        exact ih hcs (e * 10 + d)

/-! ## The parts of a number -/

/-- The real number is settled before the rest of the text is looked at. -/
theorem realNumber_eq_ok {negative : Bool} {word : Nat} {exponent : Int} {text rest : List Char}
    {n : Number} (h : realNumber negative word exponent text = .ok (n, rest)) :
    rest = text ∧ ∀ after, realNumber negative word exponent after = .ok (n, after) := by
  unfold realNumber at h ⊢
  cases hx : scaledWord word exponent with
  | none => simp [hx] at h
  | some x =>
      simp only [hx, Except.ok.injEq, Prod.mk.injEq] at h
      obtain ⟨rfl, rfl⟩ := h
      exact ⟨rfl, fun after => rfl⟩

theorem tokenwise_afterExponentSign (negative down : Bool) (word : Nat) (exponent : Int) :
    Tokenwise (afterExponentSign negative down word exponent) := by
  intro text n rest h
  cases text with
  | nil => cases h
  | cons c cs =>
      cases hd : Decimal.digit? c with
      | none => simp [afterExponentSign, hd] at h
      | some d =>
          obtain ⟨digits, after, rfl, hdigits, hafter⟩ := exists_digits cs
          simp only [afterExponentSign, hd] at h
          rcases exponentDigits_digits hdigits d with ⟨e, he⟩ | ⟨extra, hextra, he⟩
          · simp only [he after hafter] at h
            obtain ⟨rfl, hreal⟩ := realNumber_eq_ok h
            refine ⟨c :: digits, rfl, fun other hother => ?_⟩
            simp only [List.cons_append, afterExponentSign, hd, he other hother.1, hreal]
          · simp only [he after, skipDigits_digits hextra hafter] at h
            split at h
            · cases h
            · next hsmall =>
                simp only [Except.ok.injEq, Prod.mk.injEq] at h
                obtain ⟨rfl, rfl⟩ := h
                refine ⟨c :: digits, rfl, fun other hother => ?_⟩
                simp only [List.cons_append, afterExponentSign, hd, he other,
                  skipDigits_digits hextra hother.1, if_neg hsmall]

theorem sign_of_ne {c : Char} (hplus : c ≠ '+') (hminus : c ≠ '-') (cs : List Char) :
    Decimal.sign (c :: cs) = (false, c :: cs) := by
  unfold Decimal.sign
  split <;> simp_all

theorem tokenwise_afterExponentMark (negative : Bool) (word : Nat) (exponent : Int) :
    Tokenwise (afterExponentMark negative word exponent) := by
  intro text n rest h
  have hdigits := fun down => tokenwise_afterExponentSign negative down word exponent
  cases text with
  | nil => cases h
  | cons c cs =>
      by_cases hplus : c = '+'
      · subst hplus
        exact (hdigits false).behind ['+'] (fun _ => rfl) h
      · by_cases hminus : c = '-'
        · subst hminus
          exact (hdigits true).behind ['-'] (fun _ => rfl) h
        · -- Without a sign the token begins with the digit that the text begins with.
          simp only [afterExponentMark, sign_of_ne hplus hminus] at h
          obtain ⟨token, htext, htoken⟩ := hdigits false (c :: cs) n rest h
          refine ⟨token, htext, fun after hafter => ?_⟩
          cases token with
          | nil => cases htoken [] stops_nil
          | cons d ds =>
              obtain rfl : c = d := (List.cons.inj htext).1
              simp only [List.cons_append, afterExponentMark, sign_of_ne hplus hminus]
              exact htoken after hafter

theorem tokenwise_afterDigits (negative : Bool) (word : Nat) (exponent : Int) :
    Tokenwise (afterDigits negative word exponent) := by
  intro text n rest h
  -- Where no exponent follows, the number ends before what stops it.
  have hstop : ∀ {text : List Char}, realNumber negative word exponent text = .ok (n, rest) →
      text = rest ∧ ∀ after, Stops after →
        afterDigits negative word exponent after = .ok (n, after) := by
    intro text hreal
    obtain ⟨rfl, hany⟩ := realNumber_eq_ok hreal
    refine ⟨rfl, fun after hafter => ?_⟩
    cases after with
    | nil => exact hany []
    | cons c cs =>
        have hmark := (stops_cons_iff.1 hafter).2.2
        simp only [afterDigits, hmark, Bool.false_eq_true, if_false, hany]
  cases text with
  | nil =>
      obtain ⟨rfl, hafter⟩ := hstop h
      exact ⟨[], rfl, hafter⟩
  | cons c cs =>
      by_cases hmark : isExponentMark c = true
      · exact (tokenwise_afterExponentMark negative word exponent).behind [c]
          (fun _ => if_pos hmark) h
      · simp only [afterDigits, hmark] at h
        obtain ⟨rfl, hafter⟩ := hstop h
        exact ⟨[], rfl, hafter⟩

theorem tokenwise_afterPoint (negative : Bool) (word : Nat) (exponent : Int) :
    Tokenwise (afterPoint negative word exponent) := by
  intro text n rest h
  obtain ⟨digits, after, rfl, hdigits, hafter⟩ := exists_digits text
  obtain ⟨w, count, extra, -, hextra, hgather⟩ := gather_digits hdigits word
  by_cases hnone : count + extra.length = 0
  · simp [afterPoint, hgather after hafter, skipDigits_digits hextra hafter, hnone] at h
  · refine (tokenwise_afterDigits negative w (exponent - count)).behind_digits digits ?_ hafter h
    intro cs hcs
    simp only [afterPoint, hgather cs hcs, skipDigits_digits hextra hcs, hnone, if_false]

theorem afterLongWhole_of_ne {negative : Bool} {word extra : Nat} {text : List Char}
    (h : ∀ cs, text ≠ '.' :: cs) :
    afterLongWhole negative word extra text = afterDigits negative word extra text := by
  unfold afterLongWhole
  split
  · exact absurd rfl (h _)
  · rfl

theorem tokenwise_afterLongWhole (negative : Bool) (word extra : Nat) :
    Tokenwise (afterLongWhole negative word extra) := by
  intro text n rest h
  by_cases hpoint : ∃ cs, text = '.' :: cs
  · obtain ⟨cs, rfl⟩ := hpoint
    exact (tokenwise_afterPoint negative word extra).behind ['.'] (fun _ => rfl) h
  · have hne : ∀ cs, text ≠ '.' :: cs := fun cs heq => hpoint ⟨cs, heq⟩
    rw [afterLongWhole_of_ne hne] at h
    obtain ⟨token, rfl, htoken⟩ := tokenwise_afterDigits negative word extra text n rest h
    refine ⟨token, rfl, fun after hafter => ?_⟩
    rw [afterLongWhole_of_ne, htoken after hafter]
    rintro cs heq
    cases token with
    | nil =>
        obtain rfl : after = '.' :: cs := heq
        exact (stops_cons_iff.1 hafter).2.1 rfl
    | cons d ds => exact hne _ (congrArg (· :: (ds ++ rest)) (List.cons.inj heq).1)

theorem tokenwise_afterWhole (negative : Bool) (word : Nat) :
    Tokenwise (afterWhole negative word) := by
  intro text n rest h
  -- Where neither a point nor an exponent follows, the number is whole if it fits.
  have hstop : ∀ after, Stops after →
      afterWhole negative word after = .ok (wholeNumber negative word, after) := by
    intro after hafter
    cases after with
    | nil => rfl
    | cons c cs =>
        obtain ⟨-, hpoint, hmark⟩ := stops_cons_iff.1 hafter
        simp only [afterWhole, hpoint, hmark, Bool.false_eq_true, if_false]
  cases text with
  | nil =>
      cases h
      exact ⟨[], rfl, hstop⟩
  | cons c cs =>
      by_cases hpoint : c = '.'
      · subst hpoint
        exact (tokenwise_afterPoint negative word 0).behind ['.'] (fun _ => rfl) h
      · by_cases hmark : isExponentMark c = true
        · refine (tokenwise_afterExponentMark negative word 0).behind [c] (fun cs => ?_) h
          simp only [List.singleton_append, afterWhole, hpoint, hmark, if_true, if_false]
        · simp only [afterWhole, hpoint, hmark, if_false] at h
          cases h
          exact ⟨[], rfl, hstop⟩

/-! ## Numbers -/

section Numerals

variable {negative : Bool} {c : Char} {d : Nat} {digits cs : List Char}

/-- A zero stands alone, so no digit comes after it. -/
theorem numeral_zero (hd : Decimal.digit? c = some 0) (h : startsWithDigit cs = false) :
    numeral negative (c :: cs) = afterWhole negative 0 cs := by
  simp only [numeral, hd, h, Bool.false_eq_true, if_false]

/-- The digits of the whole part fit the word, or some of them only raise the exponent. -/
theorem numeral_digits (negative : Bool) (hd : Decimal.digit? c = some (d + 1))
    (hdigits : AllDigits digits) :
    ∃ w, (∀ cs, startsWithDigit cs = false →
        numeral negative (c :: digits ++ cs) = afterWhole negative w cs) ∨
      ∃ extra, ∀ cs, startsWithDigit cs = false →
        numeral negative (c :: digits ++ cs) = afterLongWhole negative w extra cs := by
  obtain ⟨w, count, extra, -, hextra, hgather⟩ := gather_digits hdigits (d + 1)
  refine ⟨w, ?_⟩
  cases extra with
  | nil =>
      refine .inl fun cs hcs => ?_
      simp only [List.cons_append, numeral, hd, hgather cs hcs, List.nil_append, hcs,
        Bool.false_eq_true, if_false]
  | cons x xs =>
      refine .inr ⟨(x :: xs).length, fun cs hcs => ?_⟩
      have hx : startsWithDigit (x :: xs ++ cs) = true := hextra x List.mem_cons_self
      simp only [List.cons_append, numeral, hd, hgather cs hcs]
      simp only [← List.cons_append, hx, if_true, skipDigits_digits hextra hcs]

end Numerals

/-- A number is read by its own characters. -/
theorem tokenwise_numeral (negative : Bool) : Tokenwise (numeral negative) := by
  intro text n rest h
  cases text with
  | nil => cases h
  | cons c cs =>
      rcases hd : Decimal.digit? c with _ | _ | d
      · simp [numeral, hd] at h
      · by_cases hstart : startsWithDigit cs = true
        · simp [numeral, hd, hstart] at h
        · exact (tokenwise_afterWhole negative 0).behind_digits [c] (fun _ => numeral_zero hd)
            (Bool.eq_false_iff.2 hstart) h
      · obtain ⟨digits, after, rfl, hdigits, hafter⟩ := exists_digits cs
        obtain ⟨w, hfits | ⟨extra, hlong⟩⟩ := numeral_digits negative hd hdigits
        · exact (tokenwise_afterWhole negative w).behind_digits (c :: digits) hfits hafter h
        · exact (tokenwise_afterLongWhole negative w extra).behind_digits (c :: digits) hlong
            hafter h

end LogLens.Json
