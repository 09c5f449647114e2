import LogLens.Decimal.Reading
import LogLens.Json.Basic
import LogLens.Json.Fault
/-!
# Reading JSON numbers

A numeral without point and exponent is a whole number when it fits a 64-bit word. Everything else
is real, and so is `-0`, which no word tells apart from `0`.

A real number is computed in binary64 with at most two roundings. The digits are gathered into a
64-bit word for as long as they fit it (`gather`); whole digits that do not fit only raise the
exponent, further digits of the fraction are dropped. The word becomes a binary64 number and is
multiplied or divided once by a power of ten. Of a negative exponent beyond 308, steps of 308 are
divided away first. A result that is not finite is a fault, and so is a number that an exponent
outside of the 32-bit range would make large.
-/

namespace LogLens.Json

/-- The largest word. -/
def maxWord : Nat := 18446744073709551615

/-- The largest exponent that is counted. -/
def maxExponent : Nat := 2147483647

/-- Continues `word` with the digits at the beginning for as long as the result fits a word: the
word, the number of digits taken, and the rest. -/
def gather (word : Nat) : List Char → Nat × Nat × List Char
  | [] => (word, 0, [])
  | c :: cs =>
    match Decimal.digit? c with
    | some d =>
      if maxWord < word * 10 + d then (word, 0, c :: cs)
      else
        let (w, count, rest) := gather (word * 10 + d) cs
        (w, count + 1, rest)
    | none => (word, 0, c :: cs)

/-- Skips digits: their number and the rest. -/
def skipDigits : List Char → Nat × List Char
  | [] => (0, [])
  | c :: cs =>
    if (Decimal.digit? c).isSome then
      let (count, rest) := skipDigits cs
      (count + 1, rest)
    else (0, c :: cs)

/-- Divides steps of `10 ^ 308` away until the exponent is at least -308 or nothing is left of the
number; `fuel` bounds the steps, and four empty any number. -/
def lowered : (fuel : Nat) → Binary64 → Int → Binary64
  | 0, x, _ => x
  | fuel + 1, x, e =>
    if -308 ≤ e then x.div (Binary64.powerOfTen (-e).toNat)
    else if x.isZero then x
    else lowered fuel (x.div (Binary64.powerOfTen 308)) (e + 308)

/-- `word · 10 ^ exponent`, computed in binary64; `none` when it is not finite. -/
def scaledWord (word : Nat) (exponent : Int) : Option Binary64 :=
  let x := Binary64.ofNat word
  if 0 ≤ exponent then
    if 308 < exponent then (if x.isZero then some x else none)
    else
      let y := x.mul (Binary64.powerOfTen exponent.toNat)
      if y.isFinite then some y else none
  else some (lowered 8 x exponent)

/-- The real number `± word · 10 ^ exponent`, with what is left of the text. -/
def realNumber (negative : Bool) (word : Nat) (exponent : Int) (rest : List Char) :
    Except Fault (Number × List Char) :=
  match scaledWord word exponent with
  | some x => .ok (.real (if negative then x.neg else x), rest)
  | none => .error (.before .numberTooLarge rest)

/-- The digits of an exponent, continuing `e`: the exponent and the rest, or, when it leaves the
32-bit range, the text after the digit that does so. -/
def exponentDigits (e : Nat) : List Char → Except (List Char) (Nat × List Char)
  | [] => .ok (e, [])
  | c :: cs =>
    match Decimal.digit? c with
    | some d => if maxExponent < e * 10 + d then .error cs else exponentDigits (e * 10 + d) cs
    | none => .ok (e, c :: cs)

/-- The number from the text after the sign of its exponent. At least one digit must follow. -/
def afterExponentSign (negative down : Bool) (word : Nat) (exponent : Int) :
    List Char → Except Fault (Number × List Char)
  | [] => .error (.before .unfinishedValue [])
  | c :: cs =>
    match Decimal.digit? c with
    | none => .error (.at .numberInvalid (c :: cs))
    | some d =>
      match exponentDigits d cs with
      | .ok (e, rest) =>
        let sum := if down then exponent - e else exponent + e
        realNumber negative word (max (min sum maxExponent) (-(maxExponent : Int) - 1)) rest
      | .error rest =>
        if word ≠ 0 ∧ !down then .error (.before .numberTooLarge rest)
        else .ok (.real (.finite negative 0 0), (skipDigits rest).2)

/-- The number from the text after the letter of its exponent. -/
def afterExponentMark (negative : Bool) (word : Nat) (exponent : Int) (text : List Char) :
    Except Fault (Number × List Char) :=
  let (down, rest) := Decimal.sign text
  afterExponentSign negative down word exponent rest

/-- Whether a character is the mark of an exponent. -/
def isExponentMark (c : Char) : Bool := c == 'e' || c == 'E'

/-- The number when its digits are read: an exponent may follow. -/
def afterDigits (negative : Bool) (word : Nat) (exponent : Int) (text : List Char) :
    Except Fault (Number × List Char) :=
  match text with
  | c :: cs =>
    if isExponentMark c then afterExponentMark negative word exponent cs
    else realNumber negative word exponent (c :: cs)
  | [] => realNumber negative word exponent []

/-- The number from the text after its point. At least one digit must follow. -/
def afterPoint (negative : Bool) (word : Nat) (exponent : Int) (text : List Char) :
    Except Fault (Number × List Char) :=
  let (w, count, rest) := gather word text
  let (skipped, rest) := skipDigits rest
  if count + skipped = 0 then
    .error (.at (if rest.isEmpty then .unfinishedValue else .numberInvalid) rest)
  else afterDigits negative w (exponent - count) rest

/-- The number when the digits of its whole part are read and some of them, `extra`, did not fit
the word. -/
def afterLongWhole (negative : Bool) (word extra : Nat) (text : List Char) :
    Except Fault (Number × List Char) :=
  match text with
  | '.' :: cs => afterPoint negative word extra cs
  | cs => afterDigits negative word extra cs

/-- A numeral without point and exponent: a whole number if it fits. -/
def wholeNumber (negative : Bool) (word : Nat) : Number :=
  let real := Number.real ((Binary64.ofNat word).neg)
  if negative then
    if word = 0 then real
    else
      match Whole.ofInt? (-(word : Int)) with
      | some n => .whole n
      | none => real
  else
    match Whole.ofInt? word with
    | some n => .whole n
    | none => .real (Binary64.ofNat word)

/-- The number when the digits of its whole part are read and fit the word. -/
def afterWhole (negative : Bool) (word : Nat) (text : List Char) :
    Except Fault (Number × List Char) :=
  match text with
  | [] => .ok (wholeNumber negative word, [])
  | c :: cs =>
    if c = '.' then afterPoint negative word 0 cs
    else if isExponentMark c then afterExponentMark negative word 0 cs
    else .ok (wholeNumber negative word, c :: cs)

/-- Whether a text begins with a digit. -/
def startsWithDigit : List Char → Bool
  | [] => false
  | c :: _ => (Decimal.digit? c).isSome

/-- Reads a number after its sign. A zero stands alone at the beginning. -/
def numeral (negative : Bool) : List Char → Except Fault (Number × List Char)
  | [] => .error (.before .unfinishedValue [])
  | c :: cs =>
    match Decimal.digit? c with
    | none => .error (.at .numberInvalid (c :: cs))
    | some 0 =>
      if startsWithDigit cs then .error (.at .numberInvalid cs) else afterWhole negative 0 cs
    | some d =>
      let (word, _, rest) := gather d cs
      if startsWithDigit rest then
        let (extra, rest) := skipDigits rest
        afterLongWhole negative word extra rest
      else afterWhole negative word rest

end LogLens.Json
