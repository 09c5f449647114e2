import LogLens.Json.Numeral
/-!
# Reading JSON text

A recursive reader over the characters of a text. Each step returns what it read and what is left,
or a fault. Values nest at most 127 deep: the depth is the argument on which `value` recurs, and a
bracket at depth zero is a fault. The loops over items, members and characters end because each
round takes a character; they carry the length of the text as fuel.

`read` gives the value as it is written, with every member of every object in its place. `parse` is
what the rest of the library uses: the canonical form of that value.
-/

namespace LogLens.Json

open Text (byteCount)

/-- How deep values nest. -/
def maxDepth : Nat := 127

/-- The characters that may stand between the parts of a value. -/
def isSpace (c : Char) : Bool := c == ' ' || c == '\n' || c == '\t' || c == '\r'

/-- Drops the space at the beginning. -/
def skipSpace : List Char → List Char
  | [] => []
  | c :: cs => if isSpace c then skipSpace cs else c :: cs

/-- Reads the characters of a known word. -/
def word : (expected : List Char) → List Char → Except Fault (List Char)
  | [], text => .ok text
  | _ :: _, [] => .error (.before .unfinishedValue [])
  | e :: es, c :: cs => if e = c then word es cs else .error (.at .wordExpected (c :: cs))

/-- The value of a hexadecimal digit. -/
def hexDigit? (c : Char) : Option Nat :=
  if '0' ≤ c ∧ c ≤ '9' then some (c.toNat - 48)
  else if 'a' ≤ c ∧ c ≤ 'f' then some (c.toNat - 87)
  else if 'A' ≤ c ∧ c ≤ 'F' then some (c.toNat - 55)
  else none

/-- Four hexadecimal digits. -/
def hexQuad? : List Char → Option (Nat × List Char)
  | a :: b :: c :: d :: rest => do
    let a ← hexDigit? a
    let b ← hexDigit? b
    let c ← hexDigit? c
    let d ← hexDigit? d
    some (((a * 16 + b) * 16 + c) * 16 + d, rest)
  | _ => none

/-- The number that four hexadecimal digits give. Four bytes are looked at together. -/
def hexQuad (text : List Char) : Except Fault (Nat × List Char) :=
  match hexQuad? text with
  | some found => .ok found
  | none =>
    if byteCount text < 4 then .error ⟨.unfinishedText, 0⟩
    else .error ⟨.escapeInvalid, byteCount text - 4⟩

/-- Takes one expected character of a surrogate pair. -/
def pairMark (mark : Char) : List Char → Except Fault (List Char)
  | [] => .error (.before .unfinishedText [])
  | c :: cs => if c = mark then .ok cs else .error (.at .surrogateUnfinished (c :: cs))

/-- The character of a numeric escape, from the text after its letter. A leading surrogate must be
followed by an escape with a trailing one, and the two are one character. -/
def numericEscape (text : List Char) : Except Fault (Char × List Char) := do
  let (n, rest) ← hexQuad text
  if 0xDC00 ≤ n ∧ n ≤ 0xDFFF then .error (.before .surrogateAlone rest)
  else if n < 0xD800 ∨ 0xDFFF < n then .ok (Char.ofNat n, rest)
  else
    let rest ← pairMark '\\' rest
    let rest ← pairMark 'u' rest
    let (m, rest) ← hexQuad rest
    if m < 0xDC00 ∨ 0xDFFF < m then .error (.before .surrogateAlone rest)
    else .ok (Char.ofNat ((n - 0xD800) * 0x400 + (m - 0xDC00) + 0x10000), rest)

/-- The character of an escape, from the text after the backslash. -/
def escape : List Char → Except Fault (Char × List Char)
  | [] => .error (.before .unfinishedText [])
  | c :: cs =>
    match c with
    | '"' => .ok ('"', cs)
    | '\\' => .ok ('\\', cs)
    | '/' => .ok ('/', cs)
    | 'b' => .ok ('\x08', cs)
    | 'f' => .ok ('\x0c', cs)
    | 'n' => .ok ('\n', cs)
    | 'r' => .ok ('\r', cs)
    | 't' => .ok ('\t', cs)
    | 'u' => numericEscape cs
    | _ => .error (.at .escapeInvalid (c :: cs))

/-- The characters of a quoted text up to its closing quote, which is taken too. -/
def quoted : (fuel : Nat) → List Char → Except Fault (List Char × List Char)
  | 0, _ => .error (.before .unfinishedText [])
  | _ + 1, [] => .error (.before .unfinishedText [])
  | fuel + 1, c :: cs =>
    if c = '"' then .ok ([], cs)
    else if c = '\\' then do
      let (d, rest) ← escape cs
      let (ds, rest) ← quoted fuel rest
      .ok (d :: ds, rest)
    else if c.toNat < 0x20 then .error (.at .controlCharacter (c :: cs))
    else do
      let (ds, rest) ← quoted fuel cs
      .ok (c :: ds, rest)

/-- A quoted text from after its opening quote. -/
def quotedText (text : List Char) : Except Fault (String × List Char) := do
  let (cs, rest) ← quoted text.length.succ text
  .ok (String.ofList cs, rest)

/-- Reads a value, after any space. -/
abbrev ValueReader := List Char → Except Fault (Json × List Char)

/-- The items of a list after the first, up to the closing bracket. -/
def moreItems (item : ValueReader) : (fuel : Nat) → List Char →
    Except Fault (List Json × List Char)
  | 0, _ => .error (.before .unfinishedList [])
  | fuel + 1, text =>
    match skipSpace text with
    | [] => .error (.at .unfinishedList [])
    | c :: cs =>
      if c = ']' then .ok ([], cs)
      else if c = ',' then
        match skipSpace cs with
        | [] => .error (.at .unfinishedValue [])
        | d :: ds =>
          if d = ']' then .error (.at .commaTrailing (d :: ds))
          else do
            let (v, rest) ← item (d :: ds)
            let (vs, rest) ← moreItems item fuel rest
            .ok (v :: vs, rest)
      else .error (.at .listCommaExpected (c :: cs))

/-- The items of a list from after its opening bracket. -/
def items (item : ValueReader) (text : List Char) : Except Fault (List Json × List Char) :=
  match skipSpace text with
  | [] => .error (.at .unfinishedList [])
  | c :: cs =>
    if c = ']' then .ok ([], cs)
    else do
      let (v, rest) ← item (c :: cs)
      let (vs, rest) ← moreItems item text.length rest
      .ok (v :: vs, rest)

/-- A member of an object: the key from after its opening quote, a colon, and the value. -/
def member (item : ValueReader) (text : List Char) :
    Except Fault ((String × Json) × List Char) := do
  let (key, rest) ← quotedText text
  match skipSpace rest with
  | [] => .error (.at .unfinishedObject [])
  | c :: cs =>
    if c = ':' then do
      let (v, rest) ← item cs
      .ok ((key, v), rest)
    else .error (.at .colonExpected (c :: cs))

/-- The members of an object after the first, up to the closing bracket. -/
def moreMembers (item : ValueReader) : (fuel : Nat) → List Char →
    Except Fault (List (String × Json) × List Char)
  | 0, _ => .error (.before .unfinishedObject [])
  | fuel + 1, text =>
    match skipSpace text with
    | [] => .error (.at .unfinishedObject [])
    | c :: cs =>
      if c = '}' then .ok ([], cs)
      else if c = ',' then
        match skipSpace cs with
        | [] => .error (.at .unfinishedValue [])
        | d :: ds =>
          if d = '"' then do
            let (m, rest) ← member item ds
            let (ms, rest) ← moreMembers item fuel rest
            .ok (m :: ms, rest)
          else if d = '}' then .error (.at .commaTrailing (d :: ds))
          else .error (.at .keyExpected (d :: ds))
      else .error (.at .objectCommaExpected (c :: cs))

/-- The members of an object from after its opening bracket. -/
def members (item : ValueReader) (text : List Char) :
    Except Fault (List (String × Json) × List Char) :=
  match skipSpace text with
  | [] => .error (.at .unfinishedObject [])
  | c :: cs =>
    if c = '}' then .ok ([], cs)
    else if c = '"' then do
      let (m, rest) ← member item cs
      let (ms, rest) ← moreMembers item text.length rest
      .ok (m :: ms, rest)
    else .error (.at .keyExpected (c :: cs))

/-- A value that is no list and no object. -/
def scalar (c : Char) (cs : List Char) : Except Fault (Json × List Char) :=
  match c with
  | 'n' => do
    let rest ← word ['u', 'l', 'l'] cs
    .ok (.null, rest)
  | 't' => do
    let rest ← word ['r', 'u', 'e'] cs
    .ok (.bool true, rest)
  | 'f' => do
    let rest ← word ['a', 'l', 's', 'e'] cs
    .ok (.bool false, rest)
  | '"' => do
    let (s, rest) ← quotedText cs
    .ok (.string s, rest)
  | '-' => do
    let (n, rest) ← numeral true cs
    .ok (.number n, rest)
  | _ =>
    if (Decimal.digit? c).isSome then do
      let (n, rest) ← numeral false (c :: cs)
      .ok (.number n, rest)
    else .error (.at .valueExpected (c :: cs))

/-- A value whose parts are read by `nested`; without it no bracket may open. -/
def valueWith (nested : Option ValueReader) : ValueReader := fun text =>
  match skipSpace text with
  | [] => .error (.at .unfinishedValue [])
  | c :: cs =>
    if c = '[' then
      match nested with
      | none => .error (.at .nestedTooDeep (c :: cs))
      | some item => do
        let (vs, rest) ← items item cs
        .ok (.list vs, rest)
    else if c = '{' then
      match nested with
      | none => .error (.at .nestedTooDeep (c :: cs))
      | some item => do
        let (ms, rest) ← members item cs
        .ok (.object ms, rest)
    else scalar c cs

/-- A value that nests at most `depth` deep. -/
def value : (depth : Nat) → ValueReader
  | 0 => valueWith none
  | depth + 1 => valueWith (some (value depth))

/-- A text that is one value, with space around it, as it is written. -/
def document (text : List Char) : Except Fault Json := do
  let (v, rest) ← value maxDepth text
  match skipSpace rest with
  | [] => .ok v
  | c :: cs => .error (.at .textTrailing (c :: cs))

/-- The value that a text writes, with the members of objects as they are written. -/
def read (text : String) : Except ReadError Json :=
  match document text.toList with
  | .ok v => .ok v
  | .error fault => .error (fault.locate text.toList)

/-- The value that a text denotes, in canonical form. -/
def parse (text : String) : Except ReadError Json := canonical <$> read text

end LogLens.Json
