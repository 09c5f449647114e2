import LogLens.Decimal.Binary64
/-!
# Reading numbers

`Decimal.integer?` reads an optional sign and one or more digits. `Decimal.real?` reads a decimal:
an optional sign, digits with at most one point among or beside them, and an optional exponent. At
least one digit stands before the exponent and one in it. The value is the binary64 number nearest
to the decimal, which the exact arithmetic of `Binary64.nearest` gives in one rounding. A decimal
whose exponent is far outside of the format is decided by its size alone, so that no power of ten
larger than the format's range is ever computed.

Leading zeros and a plus sign are allowed in both.
-/

namespace LogLens.Decimal

/-- The value of a digit. -/
def digit? (c : Char) : Option Nat :=
  if '0' ≤ c ∧ c ≤ '9' then some (c.toNat - '0'.toNat) else none

/-- The digits at the beginning of a text as one number, continuing `acc`; with their count and
the rest. -/
def digits (acc : Nat) : List Char → Nat × Nat × List Char
  | [] => (acc, 0, [])
  | c :: cs =>
    match digit? c with
    | some d =>
      let (n, count, rest) := digits (acc * 10 + d) cs
      (n, count + 1, rest)
    | none => (acc, 0, c :: cs)

/-- Takes an optional sign: whether it is a minus sign, and the rest. -/
def sign : List Char → Bool × List Char
  | '-' :: cs => (true, cs)
  | '+' :: cs => (false, cs)
  | cs => (false, cs)

/-- An integer: an optional sign and one or more digits, nothing else. -/
def integer? (cs : List Char) : Option Int :=
  let (negative, cs) := sign cs
  match digits 0 cs with
  | (n, _ + 1, []) => some (if negative then -(n : Int) else n)
  | _ => none

/-- The binary64 number nearest to `± coefficient · 10 ^ exponent`. -/
def nearestDecimal (negative : Bool) (coefficient : Nat) (exponent : Int) : Binary64 :=
  let size : Int := (Nat.toDigits 10 coefficient).length + exponent
  if coefficient = 0 then .finite negative 0 0
  else if 400 < size then .infinite negative
  else if size < -400 then .finite negative 0 0
  else if 0 ≤ exponent then Binary64.nearest negative (coefficient * Nat.pow 10 exponent.toNat) 1
  else Binary64.nearest negative coefficient (Nat.pow 10 (-exponent).toNat)

/-- An exponent part that takes the whole text: `0` when there is none. -/
def exponentPart? : List Char → Option Int
  | [] => some 0
  | c :: cs => if c = 'e' ∨ c = 'E' then integer? cs else none

/-- A decimal number. -/
def real? (cs : List Char) : Option Binary64 :=
  let (negative, cs) := sign cs
  let (whole, wholeCount, rest) := digits 0 cs
  let (coefficient, fractionCount, rest) :=
    match rest with
    | '.' :: rest => digits whole rest
    | rest => (whole, 0, rest)
  if wholeCount + fractionCount = 0 then none
  else
    (exponentPart? rest).map fun e => nearestDecimal negative coefficient (e - fractionCount)

end LogLens.Decimal
