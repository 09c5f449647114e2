import LogLens.Decimal.Binary64
/-!
# The shortest decimal that reads back

`Digits.shortest` finds the decimal with the fewest significant digits among those that round to a
given binary64 number, and of these the one nearest to the number. The search is by definition and
not by a fast algorithm: for 1, 2, … 17 digits it takes the two neighbours of the number on the
decimal grid of that many digits and asks, in exact natural-number arithmetic, whether one of them
lies in the interval of reals that round to the number. The first grid with a hit wins; seventeen
digits always suffice.

The interval reaches half-way to the neighbouring binary64 numbers. Its ends belong to it when the
significand is even, because a half is rounded to even. Below a power of two the neighbour is
nearer, so the lower half is smaller there.

Two neighbours on the grid can be equally near. Which of them is taken is a decision of the
format that prints the number, so it is a parameter (`Tie`).
-/

namespace LogLens

/-- Which of two equally near decimals is taken. -/
inductive Tie where
  | up
  | even
  deriving DecidableEq, Repr

/-- A decimal: `coefficient · 10 ^ exponent`. -/
structure Digits where
  coefficient : Nat
  exponent : Int
  deriving DecidableEq, Repr

namespace Digits

/-- Takes trailing zeros of the coefficient into the exponent; at most `fuel` of them. -/
def strip : (fuel : Nat) → Digits → Digits
  | 0, d => d
  | fuel + 1, d =>
    if d.coefficient ≠ 0 ∧ d.coefficient % 10 = 0 then
      strip fuel ⟨d.coefficient / 10, d.exponent + 1⟩
    else d

/-- How many decimal digits a natural number has; zero has one. -/
def count (n : Nat) : Nat := (Nat.toDigits 10 n).length

/-- The exponent `e` with `10 ^ (e - 1) ≤ num / den < 10 ^ e`, for a positive quotient. -/
def magnitude (num den : Nat) : Int :=
  if den ≤ num then (count (num / den) : Int)
  else
    let inverse := (den + num - 1) / num
    1 - (count (inverse - 1) : Int)

/-- `num · 10 ^ (-k) / den` as a quotient of natural numbers. -/
def scaled (num den : Nat) (k : Int) : Nat × Nat :=
  if 0 ≤ k then (num, den * Nat.pow 10 k.toNat) else (num * Nat.pow 10 (-k).toNat, den)

/-- The interval of quarter units that round to `m · 2 ^ s`: its ends, and whether they belong. -/
structure Interval where
  low : Nat
  high : Nat
  closed : Bool

/-- The interval around a finite number in normal form. -/
def Interval.around (m s : Nat) : Interval where
  low := 4 * m * Nat.pow 2 s - (if m = Nat.pow 2 52 ∧ s ≠ 0 then 1 else 2) * Nat.pow 2 s
  high := 4 * m * Nat.pow 2 s + 2 * Nat.pow 2 s
  closed := m % 2 == 0

/-- Whether `c · 10 ^ k` lies in the interval. -/
def Interval.holds (i : Interval) (c : Nat) (k : Int) : Bool :=
  let den := 4 * Nat.pow 2 Binary64.unitBits
  let (low, _) := scaled i.low den k
  let (high, unit) := scaled i.high den k
  let x := c * unit
  if i.closed then low ≤ x && x ≤ high else low < x && x < high

/-- The neighbour of `m · 2 ^ s` on the grid of the multiples of `10 ^ k` that rounds to it, the
nearer one if both do. -/
def onGrid (tie : Tie) (m s : Nat) (k : Int) : Option Nat :=
  let (num, den) := scaled (m * Nat.pow 2 s) (Nat.pow 2 Binary64.unitBits) k
  let below := num / den
  let rest := num % den
  let i := Interval.around m s
  match i.holds below k, i.holds (below + 1) k with
  | false, false => none
  | true, false => some below
  | false, true => some (below + 1)
  | true, true =>
    if 2 * rest < den then some below
    else if den < 2 * rest then some (below + 1)
    else
      match tie with
      | .up => some (below + 1)
      | .even => some (if below % 2 = 0 then below else below + 1)

/-- Tries the grids of `n`, `n + 1`, … digits, `more` of them after the first. -/
def search (tie : Tie) (m s : Nat) (size : Int) : (more n : Nat) → Digits
  | 0, n => ⟨(scaled (m * Nat.pow 2 s) (Nat.pow 2 Binary64.unitBits) (size - n)).1 /
      (scaled (m * Nat.pow 2 s) (Nat.pow 2 Binary64.unitBits) (size - n)).2, size - n⟩
  | more + 1, n =>
    match onGrid tie m s (size - n) with
    | some c => ⟨c, size - n⟩
    | none => search tie m s size more (n + 1)

/-- The shortest decimal that rounds to `m · 2 ^ s` units, without trailing zeros. -/
def shortest (tie : Tie) (m s : Nat) : Digits :=
  if m = 0 then ⟨0, 0⟩
  else
    strip 20 (search tie m s (magnitude (m * Nat.pow 2 s) (Nat.pow 2 Binary64.unitBits)) 17 1)

end Digits

end LogLens
