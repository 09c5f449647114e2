import LogLens.Text.Utf8
import LogLens.Time.Instant
/-!
# Internet timestamps

A timestamp in the format of RFC 3339 is a date, one of `T`, `t` and a blank, a time with an
optional fraction of a second, and `Z`, `z` or an offset in hours and minutes. Of a fraction nine
digits count. Second 60 is a leap second, in every minute.

The reader goes from left to right and names the first thing that is wrong with a text: it ends too
early, it goes on after its end, a character is out of place, or a field is out of its range.
-/

namespace LogLens.Rfc3339

/-- What is wrong with a timestamp. -/
inductive Fault where
  | tooShort
  | tooLong
  | invalid
  | outOfRange
  deriving DecidableEq, Repr

/-- The wording of a fault. -/
def Fault.message : Fault → String
  | tooShort => "premature end of input"
  | tooLong => "trailing input"
  | invalid => "input contains invalid characters"
  | outOfRange => "input is out of range"

/-- Reads `count` digits, continuing the number `n`. -/
def number (n : Nat) : (count : Nat) → List Char → Except Fault (Nat × List Char)
  | 0, text => .ok (n, text)
  | _ + 1, [] => .error .invalid
  | count + 1, c :: cs =>
    if '0' ≤ c ∧ c ≤ '9' then number (n * 10 + (c.toNat - 48)) count cs else .error .invalid

/-- Takes one of the expected characters. -/
def mark (expected : List Char) : List Char → Except Fault (List Char)
  | [] => .error .invalid
  | c :: cs => if expected.contains c then .ok cs else .error .invalid

/-- Year, month and day. -/
def date (text : List Char) : Except Fault (Date × List Char) := do
  let (year, text) ← number 0 4 text
  let text ← mark ['-'] text
  let (month, text) ← number 0 2 text
  let text ← mark ['-'] text
  let (day, text) ← number 0 2 text
  let d : Date := ⟨year, month, day⟩
  if d.isValid then .ok (d, text) else .error .outOfRange

/-- The digits of a fraction up to `count` of them, as a number of as many digits; with the rest. -/
def fractionDigits (n : Nat) : (count : Nat) → List Char → Nat × List Char
  | 0, text => (n, text)
  | count + 1, [] => (n * Nat.pow 10 (count + 1), [])
  | count + 1, c :: cs =>
    if '0' ≤ c ∧ c ≤ '9' then fractionDigits (n * 10 + (c.toNat - 48)) count cs
    else (n * Nat.pow 10 (count + 1), c :: cs)

/-- Drops digits. -/
def dropDigits : List Char → List Char
  | [] => []
  | c :: cs => if '0' ≤ c ∧ c ≤ '9' then dropDigits cs else c :: cs

/-- The nanoseconds of an optional fraction. -/
def fraction : List Char → Except Fault (Nat × List Char)
  | '.' :: [] => .error .tooShort
  | '.' :: c :: cs =>
    if '0' ≤ c ∧ c ≤ '9' then
      let (n, rest) := fractionDigits 0 9 (c :: cs)
      .ok (n, dropDigits rest)
    else .error .invalid
  | text => .ok (0, text)

/-- A second of the day and nanoseconds, up to two billions of them in a leap second. -/
def time (text : List Char) : Except Fault ((Nat × Nat) × List Char) := do
  let (hour, text) ← number 0 2 text
  let text ← mark [':'] text
  let (minute, text) ← number 0 2 text
  let text ← mark [':'] text
  let (second, text) ← number 0 2 text
  let (nanos, text) ← fraction text
  if 23 < hour ∨ 59 < minute ∨ 60 < second then .error .outOfRange
  else if second = 60 then .ok ((hour * 3600 + minute * 60 + 59, nanos + 1000000000), text)
  else .ok ((hour * 3600 + minute * 60 + second, nanos), text)

/-- Two digits, where the text may end too early. -/
def pair (text : List Char) : Except Fault (Nat × List Char) :=
  if Text.byteCount text < 2 then .error .tooShort else number 0 2 text

/-- The colon of an offset. -/
def colon : List Char → Except Fault (List Char)
  | [] => .error .tooShort
  | text => mark [':'] text

/-- Hours and minutes of an offset, in seconds. -/
def offsetFields (text : List Char) : Except Fault (Nat × List Char) := do
  let (hours, text) ← pair text
  let text ← colon text
  let (minutes, text) ← pair text
  if 59 < minutes then .error .outOfRange else .ok (hours * 3600 + minutes * 60, text)

/-- The offset from Greenwich, in seconds. -/
def offset : List Char → Except Fault (Int × List Char)
  | [] => .error .tooShort
  | c :: cs =>
    match c with
    | 'Z' => .ok (0, cs)
    | 'z' => .ok (0, cs)
    | '+' => do
      let (n, rest) ← offsetFields cs
      .ok ((n : Int), rest)
    | '-' => do
      let (n, rest) ← offsetFields cs
      .ok (-(n : Int), rest)
    | '\u2212' => do
      let (n, rest) ← offsetFields cs
      .ok (-(n : Int), rest)
    | _ => .error .invalid

/-- The instant of a second and nanoseconds. -/
def instant (seconds : Int) (nanos : Nat) : Except Fault Instant :=
  if h : nanos < 2000000000 then .ok ⟨seconds, nanos, h⟩ else .error .outOfRange

/-- Reads a timestamp. -/
def read (text : List Char) : Except Fault Instant := do
  if Text.byteCount text < 19 then .error .tooShort
  else
    let (date, text) ← date text
    let text ← mark ['T', 't', ' '] text
    let ((second, nanos), text) ← time text
    let (offset, text) ← offset text
    if !text.isEmpty then .error .tooLong
    else if 86400 ≤ offset.natAbs then .error .outOfRange
    else instant (date.toDays * 86400 + second - offset) nanos

/-- Writes an instant at Greenwich, with `digits` digits of the fraction. -/
def write (digits : Nat) (t : Instant) : String :=
  let c := Clockface.of 0 t
  String.ofList (c.dateText ++ 'T' :: c.timeText digits ++ ['Z'])

end LogLens.Rfc3339
