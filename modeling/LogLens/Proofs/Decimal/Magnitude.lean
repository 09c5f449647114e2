import LogLens.Proofs.Decimal.Binary64
import Mathlib.Algebra.Group.Int.Defs

/-!
# Magnitudes in binary64

A rounding keeps the binade of a number or ends at the beginning of the next one. So a quotient
below a power of two is rounded to a number below the next power, which is finite as long as the
format reaches so far, and one that is at least a power of two stays so. A number that is divided by
two or more is below each power of two that it was below: this is how far a word that is scaled down
can get.

An integer of 64 bits is rounded only beyond `2 ^ 53`, and it stays beyond it. So none crosses a bound
of fewer bits when it is taken to the format and cut back.

## Main results

* `isBelow_nearest`, `isAtLeast_nearest` — the magnitude of a rounded quotient.
* `isBelow_div` — dividing by at least two.
* `isFinite_of_isBelow` — numbers with a bound are finite.
* `truncated_ofInt_cases` — integers that go through the format.
* `le_truncated_ofInt_iff`, `truncated_ofInt_le_iff` — their comparison with a bound.
-/

namespace LogLens.Binary64

/-- A finite number whose magnitude is below `2 ^ bits`. -/
def IsBelow (bits : Nat) : Binary64 → Prop
  | finite _ m s => m * 2 ^ s < 2 ^ (bits + unitBits)
  | _ => False

/-- A finite number whose magnitude is at least `2 ^ bits`. -/
def IsAtLeast (bits : Nat) : Binary64 → Prop
  | finite _ m s => 2 ^ (bits + unitBits) ≤ m * 2 ^ s
  | _ => False

variable {bits : Nat} {x y : Binary64}

theorem isFinite_of_isBelow (h : x.IsBelow bits) : x.isFinite = true := by
  cases x with
  | finite => rfl
  | nan => exact h.elim
  | infinite => exact h.elim

/-- Carrying a full significand over to the scale does not change the magnitude. -/
theorem pack_eq_finite {negative : Bool} {m s : Nat} (h : (pack negative m s).isFinite = true) :
    ∃ m' s', pack negative m s = finite negative m' s' ∧ m' * 2 ^ s' = m * 2 ^ s := by
  unfold pack at h ⊢
  simp only [Nat.pow_eq] at h ⊢
  by_cases hfull : m = 2 ^ 53
  · have hcarry : 2 ^ 52 * 2 ^ (s + 1) = m * 2 ^ s := by
      rw [hfull, ← Nat.pow_add, ← Nat.pow_add]
      congr 1
      omega
    rw [if_pos hfull] at h ⊢
    by_cases hs : maxScale < s + 1
    · simp [hs, isFinite] at h
    · exact ⟨2 ^ 52, s + 1, by simp [hs], hcarry⟩
  · rw [if_neg hfull] at h ⊢
    by_cases hs : maxScale < s
    · simp [hs, isFinite] at h
    · exact ⟨m, s, by simp [hs], rfl⟩

/-- The rounding of a quotient in units, as long as it is finite. -/
theorem nearest_eq_finite {negative : Bool} {num den : Nat}
    (h : (nearest negative num den).isFinite = true) :
    ∃ m s, nearest negative num den = finite negative m s ∧
      m * 2 ^ s = roundHalfEven (num * 2 ^ unitBits)
          (den * 2 ^ (Nat.log2 (num * 2 ^ unitBits / den) - 52)) *
        2 ^ (Nat.log2 (num * 2 ^ unitBits / den) - 52) := by
  unfold nearest at h ⊢
  simp only [Nat.pow_eq] at h ⊢
  generalize num * 2 ^ unitBits = units at h ⊢
  exact pack_eq_finite h

theorem isFinite_pack (negative : Bool) (m : Nat) {s : Nat} (h : s < maxScale) :
    (pack negative m s).isFinite = true := by
  unfold pack
  by_cases hfull : m = Nat.pow 2 53
  · simp [hfull, Nat.not_lt.2 h, isFinite]
  · simp [hfull, Nat.not_lt.2 (Nat.le_of_lt h), isFinite]

/-- Rounding units to the scale that is chosen for them at most doubles them. -/
theorem roundHalfEven_scale_le (units den : Nat) :
    roundHalfEven units (den * 2 ^ (Nat.log2 (units / den) - 52)) *
        2 ^ (Nat.log2 (units / den) - 52) ≤ 2 * (units / den) + 1 := by
  have hround := roundHalfEven_le units (den * 2 ^ (Nat.log2 (units / den) - 52))
  rw [← Nat.div_div_eq_div_mul] at hround
  generalize units / den = q at hround ⊢
  have hscale : 2 ^ (Nat.log2 q - 52) ≤ q + 1 := by
    by_cases hzero : q = 0
    · simp [hzero]
    · have hlog : 2 ^ (Nat.log2 q - 52) ≤ 2 ^ Nat.log2 q :=
        Nat.pow_le_pow_right (by decide) (Nat.sub_le _ _)
      have hself := Nat.log2_self_le hzero
      omega
  have hdiv := Nat.div_mul_le_self q (2 ^ (Nat.log2 q - 52))
  calc
    _ ≤ (q / 2 ^ (Nat.log2 q - 52) + 1) * 2 ^ (Nat.log2 q - 52) := Nat.mul_le_mul_right _ hround
    _ = q / 2 ^ (Nat.log2 q - 52) * 2 ^ (Nat.log2 q - 52) + 2 ^ (Nat.log2 q - 52) := by
      rw [Nat.add_mul, Nat.one_mul]
    _ ≤ q + (q + 1) := Nat.add_le_add hdiv hscale
    _ = 2 * q + 1 := by omega

theorem units_lt {num den : Nat} (h : num < 2 ^ bits * den) :
    num * 2 ^ unitBits / den < 2 ^ (bits + unitBits) := by
  refine Nat.div_lt_of_lt_mul ?_
  calc
    num * 2 ^ unitBits < 2 ^ bits * den * 2 ^ unitBits :=
      Nat.mul_lt_mul_of_pos_right h (Nat.two_pow_pos _)
    _ = den * 2 ^ (bits + unitBits) := by rw [Nat.pow_add, Nat.mul_comm (2 ^ bits), Nat.mul_assoc]

/-- The scale that is chosen for units is not beyond their binade, so rounding keeps the binade. -/
theorem le_roundHalfEven_scale {units den : Nat} (h : units / den ≠ 0) :
    2 ^ Nat.log2 (units / den) ≤
      roundHalfEven units (den * 2 ^ (Nat.log2 (units / den) - 52)) *
        2 ^ (Nat.log2 (units / den) - 52) := by
  have hround := le_roundHalfEven units (den * 2 ^ (Nat.log2 (units / den) - 52))
  rw [← Nat.div_div_eq_div_mul] at hround
  generalize units / den = q at h hround ⊢
  have hsplit : 2 ^ Nat.log2 q = 2 ^ (Nat.log2 q - (Nat.log2 q - 52)) * 2 ^ (Nat.log2 q - 52) := by
    rw [← Nat.pow_add]
    congr 1
    omega
  rw [hsplit]
  refine Nat.mul_le_mul_right _ (Nat.le_trans ?_ hround)
  rw [Nat.le_div_iff_mul_le (Nat.two_pow_pos _), ← hsplit]
  exact Nat.log2_self_le h

/-- A quotient below a power of two is rounded to a finite number, if the format reaches so far. -/
theorem isFinite_nearest (negative : Bool) {num den : Nat} (h : num < 2 ^ bits * den)
    (hbits : bits < 1023) : (nearest negative num den).isFinite = true := by
  unfold nearest
  simp only [Nat.pow_eq]
  refine isFinite_pack _ _ ?_
  have hmax : bits + unitBits < maxScale + 52 := by
    simp only [unitBits, maxScale]
    omega
  have hpos : 0 < maxScale := by decide
  by_cases hzero : num * 2 ^ unitBits / den = 0
  · rwa [hzero]
  · have hlog := (Nat.log2_lt hzero).2 (units_lt h)
    omega

/-- A quotient below a power of two is rounded to a number below the next one. -/
theorem isBelow_nearest (negative : Bool) {num den : Nat} (h : num < 2 ^ bits * den)
    (hbits : bits < 1023) : (nearest negative num den).IsBelow (bits + 1) := by
  obtain ⟨m, s, heq, hsame⟩ := nearest_eq_finite (isFinite_nearest negative h hbits)
  have hround := roundHalfEven_scale_le (num * 2 ^ unitBits) den
  have hunits := units_lt h
  have hdouble : 2 ^ (bits + 1 + unitBits) = 2 * 2 ^ (bits + unitBits) := by
    rw [Nat.add_right_comm, Nat.pow_succ, Nat.mul_comm]
  rw [heq, IsBelow, hsame]
  omega

/-- A quotient that is at least a power of two is rounded to a number that is so too. -/
theorem isAtLeast_nearest {negative : Bool} {num den : Nat} (hden : 0 < den)
    (h : 2 ^ bits * den ≤ num) (hfinite : (nearest negative num den).isFinite = true) :
    (nearest negative num den).IsAtLeast bits := by
  obtain ⟨m, s, heq, hsame⟩ := nearest_eq_finite hfinite
  have hunits : 2 ^ (bits + unitBits) ≤ num * 2 ^ unitBits / den := by
    rw [Nat.le_div_iff_mul_le hden, Nat.pow_add, Nat.mul_right_comm]
    exact Nat.mul_le_mul_right _ h
  have hzero : num * 2 ^ unitBits / den ≠ 0 := by
    have hpos := Nat.two_pow_pos (bits + unitBits)
    omega
  have hbinade := Nat.pow_le_pow_right (n := 2) (by decide) ((Nat.le_log2 hzero).2 hunits)
  rw [heq, IsAtLeast, hsame]
  exact Nat.le_trans hbinade (le_roundHalfEven_scale hzero)

/-- A number that is divided by at least two stays below the power of two that it was below. -/
theorem isBelow_div (hx : x.IsBelow (bits + 1)) (hy : y.IsAtLeast 1) (hbits : bits < 1023) :
    (x.div y).IsBelow (bits + 1) := by
  cases x with
  | nan => exact hx.elim
  | infinite => exact hx.elim
  | finite n m s =>
      cases y with
      | nan => exact hy.elim
      | infinite => exact hy.elim
      | finite n' m' s' =>
          have hquotient : m * 2 ^ s < 2 ^ bits * (m' * 2 ^ s') := calc
            m * 2 ^ s < 2 ^ (bits + 1 + unitBits) := hx
            _ = 2 ^ bits * 2 ^ (1 + unitBits) := by rw [Nat.add_assoc, Nat.pow_add]
            _ ≤ 2 ^ bits * (m' * 2 ^ s') := Nat.mul_le_mul_left _ hy
          rw [div]
          exact isBelow_nearest _ hquotient hbits

theorem isFinite_neg (x : Binary64) : x.neg.isFinite = x.isFinite := by
  cases x <;> rfl

/-- The powers of ten that are used are finite; the last one is in the last binade. -/
theorem isFinite_powerOfTen {k : Nat} (h : k < 309) : (powerOfTen k).isFinite = true := by
  by_cases hlast : k = 308
  · rw [hlast]
    decide +kernel
  · have hlt : 10 ^ k < 2 ^ 1020 * 1 :=
      Nat.lt_of_le_of_lt (Nat.pow_le_pow_right (by decide) (show k ≤ 307 by omega))
        (by decide +kernel)
    exact isFinite_nearest false hlt (by decide)

theorem isAtLeast_powerOfTen {k : Nat} (h : k < 309) (hpos : 0 < k) :
    (powerOfTen k).IsAtLeast 1 := by
  have hten : 2 ^ 1 * 1 ≤ 10 ^ k :=
    Nat.le_trans (by decide) (Nat.pow_le_pow_right (by decide) hpos : 10 ^ 1 ≤ 10 ^ k)
  exact isAtLeast_nearest (by decide) hten (isFinite_powerOfTen h)

/-! ## Integers against a bound -/

theorem two_pow_le_wholePart {bits m s : Nat} (h : 2 ^ (bits + unitBits) ≤ m * 2 ^ s) :
    2 ^ bits ≤ wholePart m s := by
  rw [wholePart, Nat.pow_eq, Nat.pow_eq, Nat.le_div_iff_mul_le (Nat.two_pow_pos _), ← Nat.pow_add]
  exact h

/-- An integer of 64 bits goes through the format unchanged, or it is beyond `2 ^ 53` on one side of
zero and stays there. -/
theorem truncated_ofInt_cases {i : Int} (hi : i.natAbs < 2 ^ 64) :
    (ofInt i).truncated = i ∨ 2 ^ 53 ≤ i ∧ 2 ^ 53 ≤ (ofInt i).truncated ∨
      i ≤ -2 ^ 53 ∧ (ofInt i).truncated ≤ -2 ^ 53 := by
  by_cases hsmall : i.natAbs < 2 ^ 53
  · left
    rw [truncated_ofInt_short (isShort_of_lt hsmall) hi]
    unfold clamped
    omega
  · right
    have hrange : i.natAbs < 2 ^ 64 * 1 := by omega
    have hbeyond : 2 ^ 53 * 1 ≤ i.natAbs := by omega
    have hfinite := isFinite_nearest (decide (i < 0)) hrange (by decide)
    have hlarge := isAtLeast_nearest (by decide) hbeyond hfinite
    obtain ⟨m, s, heq, -⟩ := nearest_eq_finite hfinite
    rw [heq] at hlarge
    have hwhole := two_pow_le_wholePart hlarge
    rw [ofInt, heq, truncated_finite]
    unfold clamped
    by_cases hneg : i < 0
    · simp only [hneg, decide_true, if_true]
      omega
    · simp only [hneg, decide_false, Bool.false_eq_true, if_false]
      omega

variable {b i : Int}

/-- No integer crosses a bound of at most 53 bits on its way through the format. -/
theorem le_truncated_ofInt_iff (hb : b.natAbs < 2 ^ 53) (hi : i.natAbs < 2 ^ 64) :
    b ≤ (ofInt i).truncated ↔ b ≤ i := by
  have hcases := truncated_ofInt_cases hi
  omega

theorem truncated_ofInt_le_iff (hb : b.natAbs < 2 ^ 53) (hi : i.natAbs < 2 ^ 64) :
    (ofInt i).truncated ≤ b ↔ i ≤ b := by
  have hcases := truncated_ofInt_cases hi
  omega

end LogLens.Binary64
