import LogLens.Decimal.Shortest
import LogLens.Text.Cut
/-!
# Numbers as text

Two texts of a binary64 number are in use, and both show the digits of `Digits.shortest`. They
differ in decisions that `NumberStyle` lists: which exponents are written positionally, whether a
whole number keeps a `.0`, and which of two equally near decimals is taken.

* `NumberStyle.json` is how a number is written inside JSON text: positional from `1e-5` up to
  below `1e16`, always with a fraction or an exponent, the exponent with its sign.
* `NumberStyle.plain` is how a number is shown to a reader: positional at every size and without
  a `.0`.

`shown` is the second text with one rule on top: a whole number below `10 ^ 21` is written with
all its digits, those too that the shortest decimal leaves open.
-/

namespace LogLens

/-- The digits of a natural number in base ten. -/
def Decimal.natText (n : Nat) : String := String.ofList (Nat.toDigits 10 n)

/-- The digits of an integer in base ten, with a minus sign in front of a negative one. -/
def Decimal.intText (i : Int) : String :=
  if i < 0 then "-" ++ Decimal.natText i.natAbs else Decimal.natText i.natAbs

/-- The decisions of a number format. -/
structure NumberStyle where
  /-- The least and the greatest exponent of the first digit that are written positionally;
  without a range all are. -/
  positional : Option (Int × Int)
  /-- Whether a whole number ends in `.0`. -/
  keepsFraction : Bool
  /-- Which of two equally near decimals is taken. -/
  tie : Tie

namespace NumberStyle

/-- The style of numbers in JSON text. -/
def json : NumberStyle := ⟨some (-5, 15), true, .even⟩

/-- The style of numbers that are shown on their own. -/
def plain : NumberStyle := ⟨none, false, .up⟩

/-- `n` zeros. -/
def zeros (n : Nat) : List Char := List.replicate n '0'

/-- The digits with the point in its place: `exponent` is that of the last digit. -/
def positionalText (style : NumberStyle) (digits : List Char) (exponent : Int) : List Char :=
  let point : Int := digits.length + exponent
  if 0 ≤ exponent then
    digits ++ zeros exponent.toNat ++ (if style.keepsFraction then ['.', '0'] else [])
  else if 0 < point then
    digits.take point.toNat ++ '.' :: digits.drop point.toNat
  else
    '0' :: '.' :: zeros (-point).toNat ++ digits

/-- One digit, the others after a point, and the exponent of the first digit. -/
def scientificText (digits : List Char) (exponent : Int) : List Char :=
  let first : Int := digits.length + exponent - 1
  let mantissa :=
    match digits with
    | [] => []
    | [d] => [d]
    | d :: ds => d :: '.' :: ds
  mantissa ++ 'e' :: (if first < 0 then '-' else '+') :: Nat.toDigits 10 first.natAbs

/-- The text of a magnitude, given in units. -/
def magnitudeText (style : NumberStyle) (m s : Nat) : List Char :=
  let d := Digits.shortest style.tie m s
  let digits := Nat.toDigits 10 d.coefficient
  let first : Int := digits.length + d.exponent - 1
  match style.positional with
  | none => style.positionalText digits d.exponent
  | some (least, greatest) =>
    if d.coefficient = 0 ∨ (least ≤ first ∧ first ≤ greatest) then
      style.positionalText digits d.exponent
    else scientificText digits d.exponent

/-- The text of a number. -/
def text (style : NumberStyle) : Binary64 → String
  | .nan => "NaN"
  | .infinite negative => if negative then "-inf" else "inf"
  | .finite negative m s =>
    String.ofList ((if negative then ['-'] else []) ++ style.magnitudeText m s)

end NumberStyle

/-- The number as it is shown: a whole number below `10 ^ 21` with all its digits, any other in the
plain style. Zero has no sign. -/
def Binary64.shown (x : Binary64) : String :=
  match x with
  | .finite negative m s =>
    if Binary64.isWhole m s ∧ Binary64.wholePart m s < Nat.pow 10 21 then
      let n : Int := Binary64.wholePart m s
      Decimal.intText (if negative then -n else n)
    else NumberStyle.plain.text x
  | _ => NumberStyle.plain.text x

end LogLens
