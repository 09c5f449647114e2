/-!
# Binary64 numbers in exact arithmetic

A finite binary64 number is `± significand · 2 ^ scale` in units of `2 ^ (-1074)`, the smallest
positive number of the format. With that unit both components are natural numbers: `scale` is 0
for the subnormal numbers and for the first normal binade, and at most 2045. A number that the
format holds is in *normal form*: its significand is below `2 ^ 53`, and below `2 ^ 52` only at
scale 0. Every operation below returns normal forms, so two results are the same number, bit for
bit, exactly when they are the same value of the type (not-a-number, whose payload nothing here
reads, is one value).

Arithmetic is a single rounding of an exact quotient: `nearest` scales the quotient into units,
chooses the binade from the integer part and rounds the significand to the nearest integer, a half
to the even one. Products, quotients and conversions are stated through it and share its one
rounding rule.
-/

namespace LogLens

/-- A binary64 number; a finite one is `± significand · 2 ^ (scale - 1074)`. -/
inductive Binary64 where
  | nan
  | infinite (negative : Bool)
  | finite (negative : Bool) (significand scale : Nat)
  deriving DecidableEq, Repr, Inhabited

namespace Binary64

/-- The number of units in one: the smallest positive number is `2 ^ (-1074)`. -/
def unitBits : Nat := 1074

/-- The largest scale of a finite number. -/
def maxScale : Nat := 2045

/-- The integer nearest to `num / den`; a half goes to the even neighbour. -/
def roundHalfEven (num den : Nat) : Nat :=
  let q := num / den
  let r := num % den
  if 2 * r < den then q
  else if den < 2 * r then q + 1
  else if q % 2 = 0 then q
  else q + 1

/-- A significand that may have been rounded up to `2 ^ 53`, in normal form; a scale past the last
one is an infinity. -/
def pack (negative : Bool) (significand scale : Nat) : Binary64 :=
  let (m, s) :=
    if significand = Nat.pow 2 53 then (Nat.pow 2 52, scale + 1) else (significand, scale)
  if maxScale < s then .infinite negative else .finite negative m s

/-- The binary64 number nearest to `± num / den`, for a positive `den`. -/
def nearest (negative : Bool) (num den : Nat) : Binary64 :=
  let units := num * Nat.pow 2 unitBits
  let scale := Nat.log2 (units / den) - 52
  pack negative (roundHalfEven units (den * Nat.pow 2 scale)) scale

/-- The number with these IEEE 754 interchange bits. -/
def ofBits (bits : UInt64) : Binary64 :=
  let n := bits.toNat
  let negative := n / Nat.pow 2 63 % 2 == 1
  let exponent := n / Nat.pow 2 52 % Nat.pow 2 11
  let fraction := n % Nat.pow 2 52
  if exponent = 2047 then (if fraction = 0 then .infinite negative else .nan)
  else if exponent = 0 then .finite negative fraction 0
  else .finite negative (Nat.pow 2 52 + fraction) (exponent - 1)

/-- The number nearest to a natural number. -/
def ofNat (n : Nat) : Binary64 := nearest false n 1

/-- The number nearest to an integer. -/
def ofInt (i : Int) : Binary64 := nearest (decide (i < 0)) i.natAbs 1

/-- The same magnitude with the other sign. -/
def neg : Binary64 → Binary64
  | .nan => .nan
  | .infinite negative => .infinite (!negative)
  | .finite negative m s => .finite (!negative) m s

/-- Zero of either sign. -/
def isZero : Binary64 → Bool
  | .finite _ m _ => m == 0
  | _ => false

/-- Neither an infinity nor not-a-number. -/
def isFinite : Binary64 → Bool
  | .finite .. => true
  | _ => false

/-- The product, rounded once; only products of finite numbers arise, all others are `nan`. -/
def mul : Binary64 → Binary64 → Binary64
  | .finite n m s, .finite n' m' s' =>
    nearest (n != n') (m * m' * Nat.pow 2 (s + s')) (Nat.pow 2 (2 * unitBits))
  | _, _ => .nan

/-- The quotient by a number that is not zero, rounded once. -/
def div : Binary64 → Binary64 → Binary64
  | .finite n m s, .finite n' m' s' => nearest (n != n') (m * Nat.pow 2 s) (m' * Nat.pow 2 s')
  | _, _ => .nan

/-- The number nearest to `10 ^ k`. -/
def powerOfTen (k : Nat) : Binary64 := nearest false (Nat.pow 10 k) 1

/-- The integer part, toward zero, of a magnitude given in units. -/
def wholePart (m s : Nat) : Nat := m * Nat.pow 2 s / Nat.pow 2 unitBits

/-- Whether a magnitude given in units is an integer. -/
def isWhole (m s : Nat) : Bool := m * Nat.pow 2 s % Nat.pow 2 unitBits == 0

/-- The integer toward zero, kept within the signed 64-bit range; not-a-number counts as zero. -/
def truncated : Binary64 → Int
  | .nan => 0
  | .infinite negative => if negative then -9223372036854775808 else 9223372036854775807
  | .finite negative m s =>
    let n : Int := wholePart m s
    if negative then max (-n) (-9223372036854775808) else min n (9223372036854775807)

/-- Significand and scale are those of a number that the format holds. -/
def InNormalForm : Binary64 → Prop
  | .finite _ m s => m < Nat.pow 2 53 ∧ s ≤ maxScale ∧ (m < Nat.pow 2 52 → s = 0)
  | _ => True

end Binary64

end LogLens
