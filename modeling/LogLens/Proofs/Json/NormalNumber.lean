import LogLens.Proofs.Decimal.Magnitude
import LogLens.Proofs.Decimal.Reading
import LogLens.Proofs.Json.Grammar

/-!
# The numbers of a text that is read

However a numeral is written, it is read as a whole number, as a zero, or as a word that is scaled
by a power of ten (`IsRead`). A real number is computed in a few steps, a conversion of a word and
then products and quotients, and each of them ends in a rounding; so it is one that binary64 holds.
It is finite, because a scaled word is refused when it is not: only quotients are taken without such
a test, and these make a number smaller. The canonical form of a value has no numbers of its own, so
both are true of all numbers of a value that a text denotes.

## Main results

* `isRead_numeral`, `isRead_parse` — what numerals are read as, and so all numbers of a text.
* `IsRead.inNormalForm`, `inNormalForm_parse` — such a number is in normal form.
* `isFinite_parse` — and it is finite.
* `members_of_parse` — what is known of the members of an object that was read.
-/

namespace LogLens

namespace Binary64

theorem inNormalForm_neg {x : Binary64} (h : x.InNormalForm) : x.neg.InNormalForm := by
  cases x with
  | nan => trivial
  | infinite negative => trivial
  | finite negative m s => exact h

theorem inNormalForm_mul (x y : Binary64) : (x.mul y).InNormalForm := by
  unfold mul
  generalize Nat.pow 2 (2 * unitBits) = den
  split
  · exact inNormalForm_nearest _ _ _
  · trivial

theorem inNormalForm_div (x y : Binary64) : (x.div y).InNormalForm := by
  unfold div
  split
  · exact inNormalForm_nearest _ _ _
  · trivial

end Binary64

/-- Whether a number is finite, as all whole numbers are. -/
def Number.IsFinite : Number → Prop
  | whole _ => True
  | real x => x.isFinite = true

instance : DecidablePred Number.IsFinite
  | .whole _ => .isTrue trivial
  | .real x => inferInstanceAs (Decidable (x.isFinite = true))

namespace Json

open Binary64

/-! ## What a numeral is read as -/

/-- The numbers that a numeral can be read as. -/
inductive IsRead : Number → Prop
  | whole (negative : Bool) (word : Nat) (hword : word ≤ maxWord) :
      IsRead (wholeNumber negative word)
  | zero (negative : Bool) : IsRead (.real (.finite negative 0 0))
  | scaled (negative : Bool) (word : Nat) (exponent : Int) (x : Binary64) (hword : word ≤ maxWord)
      (hx : scaledWord word exponent = some x) : IsRead (.real (if negative then x.neg else x))

/-- Whatever number is read is one of these. -/
def ReadsNumeral (result : Except Fault (Number × List Char)) : Prop :=
  ∀ n rest, result = .ok (n, rest) → IsRead n

theorem readsNumeral_error (fault : Fault) : ReadsNumeral (.error fault) := fun _ _ h => by cases h

theorem readsNumeral_ok {n : Number} (h : IsRead n) (rest : List Char) :
    ReadsNumeral (.ok (n, rest)) := by
  rintro n' rest' heq
  cases heq
  exact h

/-- Gathering digits never leaves the range of words. -/
theorem gather_le {word : Nat} (h : word ≤ maxWord) (text : List Char) :
    (gather word text).1 ≤ maxWord := by
  induction text generalizing word with
  | nil => exact h
  | cons c cs ih =>
      rw [gather]
      split
      · split
        · exact h
        · next hfits => exact ih (Nat.not_lt.1 hfits)
      · exact h

section Numerals

variable (negative : Bool) {word : Nat} (hword : word ≤ maxWord) (exponent : Int)
  (text : List Char)

include hword

theorem readsNumeral_realNumber : ReadsNumeral (realNumber negative word exponent text) := by
  unfold realNumber
  split
  · next x hx => exact readsNumeral_ok (.scaled negative word exponent x hword hx) _
  · exact readsNumeral_error _

theorem readsNumeral_afterExponentSign (down : Bool) :
    ReadsNumeral (afterExponentSign negative down word exponent text) := by
  unfold afterExponentSign
  split
  · exact readsNumeral_error _
  · split
    · exact readsNumeral_error _
    · split
      · exact readsNumeral_realNumber _ hword _ _
      · split
        · exact readsNumeral_error _
        · exact readsNumeral_ok (.zero negative) _

theorem readsNumeral_afterExponentMark :
    ReadsNumeral (afterExponentMark negative word exponent text) :=
  readsNumeral_afterExponentSign _ hword _ _ _

theorem readsNumeral_afterDigits : ReadsNumeral (afterDigits negative word exponent text) := by
  unfold afterDigits
  split
  · split
    · exact readsNumeral_afterExponentMark _ hword _ _
    · exact readsNumeral_realNumber _ hword _ _
  · exact readsNumeral_realNumber _ hword _ _

theorem readsNumeral_afterPoint : ReadsNumeral (afterPoint negative word exponent text) := by
  simp only [afterPoint]
  split
  · exact readsNumeral_error _
  · exact readsNumeral_afterDigits _ (gather_le hword text) _ _

theorem readsNumeral_afterLongWhole (extra : Nat) :
    ReadsNumeral (afterLongWhole negative word extra text) := by
  unfold afterLongWhole
  split
  · exact readsNumeral_afterPoint _ hword _ _
  · exact readsNumeral_afterDigits _ hword _ _

theorem readsNumeral_afterWhole : ReadsNumeral (afterWhole negative word text) := by
  have hwhole := readsNumeral_ok (.whole negative word hword)
  unfold afterWhole
  split
  · exact hwhole _
  · split
    · exact readsNumeral_afterPoint _ hword _ _
    · split
      · exact readsNumeral_afterExponentMark _ hword _ _
      · exact hwhole _

end Numerals

theorem digit_le_maxWord {c : Char} {d : Nat} (h : Decimal.digit? c = some d) : d ≤ maxWord := by
  have hbelow := Decimal.le_of_digit? h
  have hmax : 9 ≤ maxWord := by decide
  omega

/-- A numeral is read as a whole number, a zero or a scaled word. -/
theorem isRead_numeral (negative : Bool) (text : List Char) :
    ReadsNumeral (numeral negative text) := by
  unfold numeral
  split
  · exact readsNumeral_error _
  · split
    · exact readsNumeral_error _
    · split
      · exact readsNumeral_error _
      · exact readsNumeral_afterWhole _ (Nat.zero_le _) _
    · next hd =>
        have hword := gather_le (digit_le_maxWord hd)
        simp only
        split
        · exact readsNumeral_afterLongWhole _ (hword _) _ _
        · exact readsNumeral_afterWhole _ (hword _) _

/-! ## Normal form -/

theorem inNormalForm_lowered {x : Binary64} (h : x.InNormalForm) (fuel : Nat) (e : Int) :
    (lowered fuel x e).InNormalForm := by
  induction fuel generalizing x e with
  | zero => exact h
  | succ fuel ih =>
      rw [lowered]
      split
      · exact inNormalForm_div _ _
      · split
        · exact h
        · exact ih (inNormalForm_div _ _) _

theorem inNormalForm_scaledWord {word : Nat} {exponent : Int} {x : Binary64}
    (h : scaledWord word exponent = some x) : x.InNormalForm := by
  have hword : (ofNat word).InNormalForm := inNormalForm_nearest _ _ _
  simp only [scaledWord] at h
  split at h
  · split at h
    · split at h
      · exact Option.some.inj h ▸ hword
      · cases h
    · split at h
      · exact Option.some.inj h ▸ inNormalForm_mul _ _
      · cases h
  · exact Option.some.inj h ▸ inNormalForm_lowered hword _ _

theorem inNormalForm_wholeNumber (negative : Bool) (word : Nat) :
    (wholeNumber negative word).InNormalForm := by
  have hword : (ofNat word).InNormalForm := inNormalForm_nearest _ _ _
  have hnegative : (Number.real (ofNat word).neg).InNormalForm := inNormalForm_neg hword
  simp only [wholeNumber]
  split
  · split
    · exact hnegative
    · split
      · trivial
      · exact hnegative
  · split
    · trivial
    · exact hword

theorem IsRead.inNormalForm {n : Number} (h : IsRead n) : n.InNormalForm := by
  cases h with
  | whole negative word => exact inNormalForm_wholeNumber negative word
  | zero negative => exact ⟨by decide, by decide, fun _ => rfl⟩
  | scaled negative word exponent x hword hx =>
      have hnormal := inNormalForm_scaledWord hx
      cases negative with
      | false => exact hnormal
      | true => exact inNormalForm_neg hnormal

/-! ## Finiteness -/

/-- A word is converted to a number of at most `2 ^ 64`. -/
theorem isBelow_ofNat {word : Nat} (h : word ≤ maxWord) : (ofNat word).IsBelow 65 := by
  refine isBelow_nearest false ?_ (by decide)
  have hmax : maxWord < 2 ^ 64 * 1 := by decide
  omega

/-- Scaling down with a negative exponent only divides by numbers of at least ten. -/
theorem isBelow_lowered {x : Binary64} (h : x.IsBelow 65) (fuel : Nat) {e : Int} (he : e < 0) :
    (lowered fuel x e).IsBelow 65 := by
  have hdiv : ∀ {x : Binary64} {k : Nat}, x.IsBelow 65 → k < 309 → 0 < k →
      (x.div (powerOfTen k)).IsBelow 65 :=
    fun hx hk hpos => isBelow_div hx (isAtLeast_powerOfTen hk hpos) (by decide)
  induction fuel generalizing x e with
  | zero => exact h
  | succ fuel ih =>
      rw [lowered]
      split
      · exact hdiv h (by omega) (by omega)
      · split
        · exact h
        · exact ih (hdiv h (by omega) (by omega)) (by omega)

theorem isFinite_scaledWord {word : Nat} {exponent : Int} {x : Binary64} (hword : word ≤ maxWord)
    (h : scaledWord word exponent = some x) : x.isFinite = true := by
  have hbelow := isBelow_ofNat hword
  simp only [scaledWord] at h
  split at h
  · split at h
    · split at h
      · exact Option.some.inj h ▸ isFinite_of_isBelow hbelow
      · cases h
    · split at h
      · next hfinite => exact Option.some.inj h ▸ hfinite
      · cases h
  · next hnegative =>
      have hlowered := isBelow_lowered hbelow 8 (Int.not_le.1 hnegative)
      exact Option.some.inj h ▸ isFinite_of_isBelow hlowered

theorem isFinite_wholeNumber (negative : Bool) {word : Nat} (hword : word ≤ maxWord) :
    (wholeNumber negative word).IsFinite := by
  have hfinite := isFinite_of_isBelow (isBelow_ofNat hword)
  have hnegative : (Number.real (ofNat word).neg).IsFinite := (isFinite_neg _).trans hfinite
  simp only [wholeNumber]
  split
  · split
    · exact hnegative
    · split
      · trivial
      · exact hnegative
  · split
    · trivial
    · exact hfinite

theorem IsRead.isFinite {n : Number} (h : IsRead n) : n.IsFinite := by
  cases h with
  | whole negative word hword => exact isFinite_wholeNumber negative hword
  | zero negative => rfl
  | scaled negative word exponent x hword hx =>
      have hfinite := isFinite_scaledWord hword hx
      cases negative with
      | false => exact hfinite
      | true => exact (isFinite_neg x).trans hfinite

/-! ## Values -/

theorem isRead_scalar {c : Char} {cs rest : List Char} {v : Json}
    (h : scalar c cs = .ok (v, rest)) : ∀ n ∈ v.numbers, IsRead n := by
  have hnumber : ∀ {negative : Bool} {text : List Char} {n : Number},
      numeral negative text = .ok (n, rest) → ∀ k ∈ (number n).numbers, IsRead k := by
    intro negative text n hnumeral
    simpa [numbers] using isRead_numeral negative text n rest hnumeral
  unfold scalar at h
  split at h
  case h_5 =>
    obtain ⟨n, hnumeral, h⟩ := bind_eq_ok.1 h
    cases h
    exact hnumber hnumeral
  case h_6 =>
    split at h
    · obtain ⟨n, hnumeral, h⟩ := bind_eq_ok.1 h
      cases h
      exact hnumber hnumeral
    · cases h
  all_goals
    obtain ⟨a, -, h⟩ := bind_eq_ok.1 h
    cases h
    simp [numbers]

/-- The numbers that are written in a spelling are read from numerals. -/
theorem Spelling.isRead_value (w : Spelling) : ∀ n ∈ w.value.numbers, IsRead n := by
  induction w with
  | token t => exact isRead_scalar t.reads
  | spaced before w after ih => exact ih
  | list inside items ih =>
      rw [value, itemValues_eq]
      intro n hn
      obtain ⟨v, hv, hn⟩ := mem_numbers_list.1 hn
      obtain ⟨w, hw, rfl⟩ := List.mem_map.1 hv
      exact ih w hw n hn
  | object inside members ih =>
      rw [value, memberValues_eq]
      intro n hn
      obtain ⟨m, hm, hn⟩ := mem_numbers_object.1 hn
      obtain ⟨part, hpart, rfl⟩ := List.mem_map.1 hm
      exact ih part hpart n hn

/-- The canonical form has no numbers of its own. -/
theorem mem_numbers_of_canonical {v : Json} {n : Number} (h : n ∈ v.canonical.numbers) :
    n ∈ v.numbers := by
  induction v with
  | list items ih =>
      rw [canonical_list] at h
      obtain ⟨v, hv, hn⟩ := mem_numbers_list.1 h
      obtain ⟨source, hsource, rfl⟩ := List.mem_map.1 hv
      exact mem_numbers_list.2 ⟨source, hsource, ih source hsource hn⟩
  | object members ih =>
      rw [canonical_object] at h
      obtain ⟨m, hm, hn⟩ := mem_numbers_object.1 h
      obtain ⟨source, hsource, rfl⟩ := mem_canonical_members hm
      exact mem_numbers_object.2 ⟨source, hsource, ih source hsource hn⟩
  | _ => exact h

/-- All numbers of a text are read from numerals. -/
theorem isRead_parse {text : String} {v : Json} (h : parse text = .ok v) :
    ∀ n ∈ v.numbers, IsRead n := by
  obtain ⟨w, -, rfl, -⟩ := parse_eq_ok_iff.1 h
  exact fun n hn => w.isRead_value n (mem_numbers_of_canonical hn)

/-- All numbers of a text are in normal form. -/
theorem inNormalForm_parse {text : String} {v : Json} (h : parse text = .ok v) :
    ∀ n ∈ v.numbers, n.InNormalForm :=
  fun n hn => (isRead_parse h n hn).inNormalForm

/-- All numbers of a text are finite. -/
theorem isFinite_parse {text : String} {v : Json} (h : parse text = .ok v) :
    ∀ n ∈ v.numbers, n.IsFinite :=
  fun n hn => (isRead_parse h n hn).isFinite

/-- The members of an object that was read are in the order of their keys, and their numbers are in
normal form. -/
theorem members_of_parse {text : String} {members : Dictionary Json}
    (h : parse text = .ok (.object members)) :
    Dictionary.Sorted members ∧ ∀ m ∈ members, ∀ n, m.2 = .number n → n.InNormalForm := by
  refine ⟨?_, fun m hm n hn => ?_⟩
  · obtain ⟨w, -, hvalue, -⟩ := parse_eq_ok_iff.1 h
    have hsame : (object members).canonical = object members := hvalue ▸ canonical_canonical w.value
    rw [canonical_object] at hsame
    exact Json.object.inj hsame ▸ Dictionary.sorted_ofEntries _
  · refine inNormalForm_parse h n (mem_numbers_object.2 ⟨m, hm, ?_⟩)
    rw [hn]
    exact List.mem_singleton_self n

end Json

end LogLens
