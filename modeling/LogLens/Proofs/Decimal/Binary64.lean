import LogLens.Json.Basic
import Mathlib.Algebra.Order.Group.Nat

/-!
# Integers in binary64

Every rounding returns a normal form. A natural number that is a power of two times a significand of
53 bits is not rounded at all, so it is found again when it is cut back to an integer. What a number
of the format is cut down to is such an integer, or one end of the signed 64-bit range, and both are
kept on the way through the format a second time.

## Main results

* `inNormalForm_nearest` — a rounding returns a normal form.
* `nearest_short` — what needs no rounding is not rounded.
* `truncated_ofInt_truncated` — an integer part survives the format.
* `truncated_ofInt_eq_iff` — which integers do.
-/

namespace LogLens

namespace Binary64

/-! ## Rounding -/

theorem roundHalfEven_mul (q : Nat) {den : Nat} (h : 0 < den) :
    roundHalfEven (q * den) den = q := by
  simp [roundHalfEven, Nat.mul_div_cancel q h, h]

theorem le_roundHalfEven (num den : Nat) : num / den ≤ roundHalfEven num den := by
  simp only [roundHalfEven]
  split_ifs <;> omega

theorem roundHalfEven_le (num den : Nat) : roundHalfEven num den ≤ num / den + 1 := by
  simp only [roundHalfEven]
  split_ifs <;> omega

/-- The scale that is chosen for a number of units leaves 53 bits before the point, and fewer only
at the least scale. -/
theorem div_scale_lt (q : Nat) : q / 2 ^ (Nat.log2 q - 52) < 2 ^ 53 := by
  refine Nat.div_lt_of_lt_mul ?_
  have hq : q < 2 ^ (Nat.log2 q + 1) := Nat.lt_log2_self
  refine hq.trans_le ?_
  rw [← Nat.pow_add]
  exact Nat.pow_le_pow_right (by decide) (by omega)

theorem le_div_scale {q : Nat} (h : 0 < Nat.log2 q - 52) :
    2 ^ 52 ≤ q / 2 ^ (Nat.log2 q - 52) := by
  have hq : q ≠ 0 := by
    rintro rfl
    simp at h
  rw [Nat.le_div_iff_mul_le (Nat.two_pow_pos _), ← Nat.pow_add]
  have hlog : 52 + (Nat.log2 q - 52) = Nat.log2 q := by omega
  rw [hlog]
  exact Nat.log2_self_le hq

theorem inNormalForm_pack (negative : Bool) {m s : Nat} (hm : m ≤ 2 ^ 53)
    (hs : m < 2 ^ 52 → s = 0) : (pack negative m s).InNormalForm := by
  unfold pack
  simp only [Nat.pow_eq]
  by_cases hfull : m = 2 ^ 53
  · simp only [hfull, if_true]
    split_ifs with hlarge
    · trivial
    · exact ⟨by decide, by omega, fun h => absurd h (by decide)⟩
  · simp only [hfull, if_false]
    split_ifs with hlarge
    · trivial
    · exact ⟨by simp only [Nat.pow_eq]; omega, by omega, hs⟩

theorem pack_of_lt (negative : Bool) {m s : Nat} (hm : m < 2 ^ 53) (hs : s ≤ maxScale) :
    pack negative m s = .finite negative m s := by
  have hnot : ¬m = Nat.pow 2 53 := Nat.ne_of_lt hm
  unfold pack
  rw [if_neg hnot]
  exact if_neg (Nat.not_lt.2 hs)

/-- A rounding returns a normal form. -/
theorem inNormalForm_nearest (negative : Bool) (num den : Nat) :
    (nearest negative num den).InNormalForm := by
  unfold nearest
  simp only [Nat.pow_eq]
  generalize num * 2 ^ unitBits = units
  have hdiv : units / (den * 2 ^ (Nat.log2 (units / den) - 52)) =
      units / den / 2 ^ (Nat.log2 (units / den) - 52) := (Nat.div_div_eq_div_mul _ _ _).symm
  refine inNormalForm_pack negative ?_ fun hsmall => ?_
  · have hle := roundHalfEven_le units (den * 2 ^ (Nat.log2 (units / den) - 52))
    have hlt := div_scale_lt (units / den)
    omega
  · by_contra hscale
    have hle := le_roundHalfEven units (den * 2 ^ (Nat.log2 (units / den) - 52))
    have hge := le_div_scale (Nat.pos_of_ne_zero hscale)
    omega

/-! ## Numbers that are not rounded -/

/-- A natural number with a significand of 53 bits. -/
def IsShort (n : Nat) : Prop := ∃ m k, m < 2 ^ 53 ∧ n = m * 2 ^ k

theorem isShort_of_lt {n : Nat} (h : n < 2 ^ 53) : IsShort n := ⟨n, 0, h, by simp⟩

theorem isShort_wholePart {m : Nat} (h : m < 2 ^ 53) (s : Nat) : IsShort (wholePart m s) := by
  unfold wholePart
  simp only [Nat.pow_eq]
  rcases Nat.le_total unitBits s with hs | hs
  · refine ⟨m, s - unitBits, h, ?_⟩
    have hpow : 2 ^ s = 2 ^ (s - unitBits) * 2 ^ unitBits := by
      rw [← Nat.pow_add]
      congr 1
      omega
    rw [hpow, ← Nat.mul_assoc, Nat.mul_div_cancel _ (Nat.two_pow_pos _)]
  · refine isShort_of_lt (Nat.lt_of_le_of_lt ?_ h)
    refine Nat.div_le_of_le_mul ?_
    rw [Nat.mul_comm]
    exact Nat.mul_le_mul_right m (Nat.pow_le_pow_right (by decide) hs)

theorem mul_two_pow_lt {n bits : Nat} (h : n < 2 ^ bits) (s : Nat) :
    n * 2 ^ s < 2 ^ (bits + s) := by
  rw [Nat.pow_add]
  exact Nat.mul_lt_mul_of_pos_right h (Nat.two_pow_pos s)

/-- What needs no rounding is not rounded. -/
theorem nearest_short (negative : Bool) {n : Nat} (hshort : IsShort n) (hn : n < 2 ^ 64) :
    ∃ m s, nearest negative n 1 = .finite negative m s ∧ m * 2 ^ s = n * 2 ^ unitBits := by
  obtain ⟨m, k, hm, rfl⟩ := hshort
  simp only [nearest, Nat.pow_eq, Nat.div_one, Nat.one_mul]
  generalize hunits : m * 2 ^ k * 2 ^ unitBits = units
  have hlt := div_scale_lt units
  have hlog : Nat.log2 units - 52 ≤ k + unitBits ∧ Nat.log2 units - 52 ≤ maxScale := by
    by_cases hzero : units = 0
    · simp [hzero]
    · have hshort : units < 2 ^ (53 + (k + unitBits)) := by
        rw [← hunits, Nat.mul_assoc, ← Nat.pow_add]
        exact mul_two_pow_lt hm (k + unitBits)
      have hrange : units < 2 ^ (64 + unitBits) := hunits ▸ mul_two_pow_lt hn unitBits
      have hlogShort := (Nat.log2_lt hzero).2 hshort
      have hlogRange := (Nat.log2_lt hzero).2 hrange
      have hmax : 64 + unitBits ≤ maxScale := by decide
      omega
  obtain ⟨scale, hscale⟩ : ∃ scale, scale = Nat.log2 units - 52 := ⟨_, rfl⟩
  rw [← hscale] at hlt hlog ⊢
  -- The scale has at most as many factors of two as the units, so it divides them.
  obtain ⟨q, hq⟩ : ∃ q, q * 2 ^ scale = units := by
    refine ⟨m * 2 ^ (k + unitBits - scale), ?_⟩
    rw [Nat.mul_assoc, ← Nat.pow_add, Nat.sub_add_cancel hlog.1, ← hunits, Nat.mul_assoc,
      ← Nat.pow_add]
  rw [← hq, Nat.mul_div_cancel q (Nat.two_pow_pos _)] at hlt
  refine ⟨q, scale, ?_, hq⟩
  have hround : roundHalfEven units (2 ^ scale) = q := by
    rw [← hq, roundHalfEven_mul q (Nat.two_pow_pos _)]
  rw [hround, pack_of_lt negative hlt hlog.2]

/-! ## Signed words -/

/-- An integer kept within the signed 64-bit range. -/
def clamped (i : Int) : Int := max (min i 9223372036854775807) (-9223372036854775808)

theorem truncated_finite (negative : Bool) (m s : Nat) :
    (finite negative m s).truncated =
      clamped (if negative then -(wholePart m s : Int) else wholePart m s) := by
  cases negative <;> simp only [truncated, clamped]
  · simp only [Bool.false_eq_true, if_false]
    omega
  · simp only [if_true]
    omega

theorem truncated_ofInt_short {i : Int} (hshort : IsShort i.natAbs) (hi : i.natAbs < 2 ^ 64) :
    (ofInt i).truncated = clamped i := by
  obtain ⟨m, s, hnearest, hvalue⟩ := nearest_short (decide (i < 0)) hshort hi
  have hwhole : wholePart m s = i.natAbs := by
    rw [wholePart, Nat.pow_eq, Nat.pow_eq, hvalue, Nat.mul_div_cancel _ (Nat.two_pow_pos _)]
  rw [ofInt, hnearest, truncated_finite, hwhole]
  congr 1
  by_cases hneg : i < 0
  · rw [if_pos (by simpa using hneg)]
    omega
  · rw [if_neg (by simpa using hneg)]
    omega

/-- The two ends of the range survive the format: the greatest word is rounded up, and cut down
again. -/
theorem truncated_ofInt_end :
    (ofInt 9223372036854775807).truncated = 9223372036854775807 ∧
      (ofInt (-9223372036854775808)).truncated = -9223372036854775808 := by
  decide +kernel

theorem truncated_ofInt_clamped {i : Int} (hshort : IsShort i.natAbs) :
    (ofInt (clamped i)).truncated = clamped i := by
  rcases Int.lt_or_le 9223372036854775807 i with habove | habove
  · have hi : clamped i = 9223372036854775807 := by unfold clamped; omega
    rw [hi, truncated_ofInt_end.1]
  · rcases Int.lt_or_le i (-9223372036854775808) with hbelow | hbelow
    · have hi : clamped i = -9223372036854775808 := by unfold clamped; omega
      rw [hi, truncated_ofInt_end.2]
    · have hi : clamped i = i := by unfold clamped; omega
      rw [hi, truncated_ofInt_short hshort (by omega), hi]

/-- An integer part survives the format. -/
theorem truncated_ofInt_truncated {x : Binary64} (h : x.InNormalForm) :
    (ofInt x.truncated).truncated = x.truncated := by
  cases x with
  | nan => decide +kernel
  | infinite negative => cases negative <;> decide +kernel
  | finite negative m s =>
      rw [truncated_finite]
      have hshort := isShort_wholePart h.1 s
      cases negative <;> exact truncated_ofInt_clamped (by simpa using hshort)

/-- The integers of the range that survive the format are those with a significand of 53 bits, and
the greatest one. -/
theorem truncated_ofInt_eq_iff {i : Int} (hlower : -9223372036854775808 ≤ i)
    (hupper : i ≤ 9223372036854775807) :
    (ofInt i).truncated = i ↔ IsShort i.natAbs ∨ i = 9223372036854775807 := by
  constructor
  · intro h
    have hnormal : (ofInt i).InNormalForm := inNormalForm_nearest _ _ _
    have hleast : IsShort (-9223372036854775808 : Int).natAbs := ⟨1, 63, by decide, by decide⟩
    cases hx : ofInt i with
    | nan =>
        rw [hx] at h
        exact .inl (h ▸ isShort_of_lt (by decide))
    | infinite negative =>
        rw [hx] at h
        cases negative with
        | false => exact .inr h.symm
        | true => exact .inl (h ▸ hleast)
    | finite negative m s =>
        rw [hx] at hnormal h
        have hshort := isShort_wholePart hnormal.1 s
        rw [truncated_finite] at h
        rcases Int.lt_or_le i 9223372036854775807 with hgreatest | hgreatest
        · refine .inl ?_
          rcases Int.lt_or_le (-9223372036854775808) i with hmiddle | hbelow
          · have hwhole : wholePart m s = i.natAbs := by
              unfold clamped at h
              cases negative <;> simp at h <;> omega
            exact hwhole ▸ hshort
          · exact Int.le_antisymm hbelow hlower ▸ hleast
        · exact .inr (Int.le_antisymm hupper hgreatest)
  · rintro (hshort | rfl)
    · rw [truncated_ofInt_short hshort (by omega)]
      unfold clamped
      omega
    · exact truncated_ofInt_end.1

theorem truncated_range (x : Binary64) :
    -9223372036854775808 ≤ x.truncated ∧ x.truncated ≤ 9223372036854775807 := by
  cases x with
  | nan => decide
  | infinite negative => cases negative <;> decide
  | finite negative m s =>
      rw [truncated_finite]
      unfold clamped
      omega

end Binary64

/-- A real number that the format holds; a whole number has its range in its type. -/
def Number.InNormalForm : Number → Prop
  | .whole _ => True
  | .real x => x.InNormalForm

theorem Number.inNormalForm_toBinary64 {n : Number} (h : n.InNormalForm) :
    n.toBinary64.InNormalForm := by
  cases n with
  | whole n => exact Binary64.inNormalForm_nearest _ _ _
  | real x => exact h

end LogLens
