import LogLens.Text.Utf8
/-!
# Settings files

A settings file is a TOML document. Of the values of that format texts, truth values, tables and
empty lists are read; no setting takes a number, a date or a list with items, so the reader refuses
those where they stand, as it refuses everything that is not of the format.

A table remembers how it came about, because that decides what may still be added to it: a table in
braces is complete, one that a dotted key makes grows by dotted keys only, and one that a heading
names grows until the next heading.
-/

namespace LogLens.Toml

/-- How a table came about. -/
inductive Origin where
  | inBraces
  | byDots
  | byHeading
  | asParent
  deriving DecidableEq, Repr

/-- A value. -/
inductive Value where
  | text (s : String)
  | flag (b : Bool)
  | emptyList
  | table (origin : Origin) (entries : List (String × Value))
  deriving Repr, Inhabited

/-- The entries of a table, in the order in which they are written. -/
abbrev Entries := List (String × Value)

/-! ## Lines -/

/-- Drops blanks and tabs. -/
def skipBlank : List Char → List Char
  | [] => []
  | c :: cs => if c = ' ' ∨ c = '\t' then skipBlank cs else c :: cs

/-- Whether a character may stand in a text or a comment. -/
def isPlain (c : Char) : Bool :=
  c == '\t' || (decide (0x20 ≤ c.toNat) && c.toNat != 0x7F)

/-- A line break and what follows it. -/
def lineBreak? : List Char → Option (List Char × List Char)
  | '\n' :: rest => some (['\n'], rest)
  | '\r' :: '\n' :: rest => some (['\r', '\n'], rest)
  | _ => none

/-- What follows a line break. -/
def afterBreak? (text : List Char) : Option (List Char) := (lineBreak? text).map Prod.snd

/-- Drops the characters up to the end of a line. -/
def toLineEnd : List Char → List Char
  | [] => []
  | c :: cs => if isPlain c then toLineEnd cs else c :: cs

/-- Drops a comment. -/
def skipComment : List Char → List Char
  | '#' :: rest => toLineEnd rest
  | rest => rest

/-- What follows the end of a line that says nothing more. -/
def afterLine? (text : List Char) : Option (List Char) :=
  match skipComment (skipBlank text) with
  | [] => some []
  | rest => afterBreak? rest

/-- Drops blanks, comments and line breaks, at most `fuel` lines of them. -/
def skipLines : (fuel : Nat) → List Char → List Char
  | 0, text => text
  | fuel + 1, text =>
    match skipComment (skipBlank text) with
    | [] => []
    | rest =>
      match afterBreak? rest with
      | some rest => skipLines fuel rest
      | none => rest

/-- Drops blanks, comments and line breaks. -/
def skipAll (text : List Char) : List Char := skipLines text.length text

/-! ## Texts -/

/-- The value of a hexadecimal digit. -/
def hexDigit? (c : Char) : Option Nat :=
  if '0' ≤ c ∧ c ≤ '9' then some (c.toNat - 48)
  else if 'a' ≤ c ∧ c ≤ 'f' then some (c.toNat - 87)
  else if 'A' ≤ c ∧ c ≤ 'F' then some (c.toNat - 55)
  else none

/-- The character that hexadecimal digits number. -/
def numbered? (n : Nat) : (digits : Nat) → List Char → Option (Char × List Char)
  | 0, text =>
    if n < 0xD800 ∨ (0xDFFF < n ∧ n < 0x110000) then some (Char.ofNat n, text) else none
  | _ + 1, [] => none
  | digits + 1, c :: cs => (hexDigit? c).bind fun d => numbered? (n * 16 + d) digits cs

/-- The character of an escape, from after the backslash. -/
def escape? : List Char → Option (Char × List Char)
  | [] => none
  | c :: cs =>
    match c with
    | 'b' => some ('\x08', cs)
    | 't' => some ('\t', cs)
    | 'n' => some ('\n', cs)
    | 'f' => some ('\x0c', cs)
    | 'r' => some ('\r', cs)
    | 'e' => some ('\x1b', cs)
    | '"' => some ('"', cs)
    | '\\' => some ('\\', cs)
    | 'x' => numbered? 0 2 cs
    | 'u' => numbered? 0 4 cs
    | 'U' => numbered? 0 8 cs
    | _ => none

/-- A text on one line up to its closing quote; escapes count in double quotes only. -/
def oneLine? (quote : Char) : (fuel : Nat) → List Char → Option (List Char × List Char)
  | 0, _ => none
  | _ + 1, [] => none
  | fuel + 1, c :: cs =>
    if c = quote then some ([], cs)
    else if c = '\\' ∧ quote = '"' then do
      let (d, rest) ← escape? cs
      let (ds, rest) ← oneLine? quote fuel rest
      some (d :: ds, rest)
    else if isPlain c then do
      let (ds, rest) ← oneLine? quote fuel cs
      some (c :: ds, rest)
    else none

/-- What follows three quotes. -/
def afterThree? (quote : Char) : List Char → Option (List Char)
  | a :: b :: c :: rest => if a = quote ∧ b = quote ∧ c = quote then some rest else none
  | _ => none

/-- Up to two quotes that stand before three closing ones. -/
def closing? (quote : Char) (text : List Char) : Option (List Char × List Char) :=
  match afterThree? quote text with
  | none => none
  | some [] => some ([], [])
  | some (c :: rest) =>
    if c = quote then
      match rest with
      | d :: rest' =>
        if d = quote then some ([quote, quote], rest') else some ([quote], rest)
      | [] => some ([quote], rest)
    else some ([], c :: rest)

/-- Drops blanks and line breaks. -/
def skipBreaks : List Char → List Char
  | '\r' :: '\n' :: cs => skipBreaks cs
  | c :: cs => if c = ' ' ∨ c = '\t' ∨ c = '\n' then skipBreaks cs else c :: cs
  | [] => []

/-- A text over several lines up to its closing quotes. A line break stays as it is written. In
double quotes a backslash at the end of a line drops everything up to the next character. -/
def manyLines? (quote : Char) : (fuel : Nat) → List Char → Option (List Char × List Char)
  | 0, _ => none
  | _ + 1, [] => none
  | fuel + 1, c :: cs =>
    match closing? quote (c :: cs), lineBreak? (c :: cs) with
    | some found, _ => some found
    | none, some (written, rest) => do
      let (ds, rest) ← manyLines? quote fuel rest
      some (written ++ ds, rest)
    | none, none =>
      if c = '\\' ∧ quote = '"' then
        match afterBreak? (skipBlank cs) with
        | some rest => manyLines? quote fuel (skipBreaks rest)
        | none => do
          let (d, rest) ← escape? cs
          let (ds, rest) ← manyLines? quote fuel rest
          some (d :: ds, rest)
      else if isPlain c then do
        let (ds, rest) ← manyLines? quote fuel cs
        some (c :: ds, rest)
      else none

/-- A text on one line, from after its opening quote. -/
def quoted? (quote : Char) (text : List Char) : Option (String × List Char) :=
  (oneLine? quote (text.length + 1) text).map fun r => (String.ofList r.1, r.2)

/-- A text over several lines, from after its opening quotes, where a line break is dropped. -/
def block? (quote : Char) (text : List Char) : Option (String × List Char) :=
  let text := (afterBreak? text).getD text
  (manyLines? quote (text.length + 1) text).map fun r => (String.ofList r.1, r.2)

/-! ## Keys -/

/-- Whether a character may stand in a key without quotes. -/
def isKeyChar (c : Char) : Bool := c.isAlphanum || c == '_' || c == '-'

/-- The characters of a key without quotes. -/
def bareKey : List Char → List Char × List Char
  | [] => ([], [])
  | c :: cs =>
    if isKeyChar c then
      let (ds, rest) := bareKey cs
      (c :: ds, rest)
    else ([], c :: cs)

/-- One key, with or without quotes. -/
def key? (text : List Char) : Option (String × List Char) :=
  match text with
  | '"' :: cs => quoted? '"' cs
  | '\'' :: cs => quoted? '\'' cs
  | _ =>
    match bareKey text with
    | ([], _) => none
    | (cs, rest) => some (String.ofList cs, rest)

/-- Keys with points between them, and what follows them and any blanks. -/
def path? : (fuel : Nat) → List Char → Option (List String × List Char)
  | 0, _ => none
  | fuel + 1, text => do
    let (key, rest) ← key? (skipBlank text)
    match skipBlank rest with
    | '.' :: rest => do
      let (keys, rest) ← path? fuel rest
      some (key :: keys, rest)
    | rest => some ([key], rest)

/-! ## Tables -/

/-- The value under a key. -/
def find? (key : String) : Entries → Option Value
  | [] => none
  | (k, v) :: rest => if k = key then some v else find? key rest

/-- Puts a value under a key, in place of one that is there. -/
def put (key : String) (value : Value) : Entries → Entries
  | [] => [(key, value)]
  | (k, v) :: rest => if k = key then (key, value) :: rest else (k, v) :: put key value rest

/-- Adds a value under a path; all but the last key name tables of dotted keys. -/
def add? (value : Value) : (path : List String) → Entries → Option Entries
  | [], _ => none
  | [key], entries =>
    match find? key entries with
    | none => some (put key value entries)
    | some _ => none
  | key :: path, entries =>
    match find? key entries with
    | none => (add? value path []).map fun inner => put key (.table .byDots inner) entries
    | some (.table .byDots inner) =>
      (add? value path inner).map fun inner => put key (.table .byDots inner) entries
    | some _ => none

/-- Opens the table that a heading names. -/
def heading? : (path : List String) → Entries → Option Entries
  | [], _ => none
  | [key], entries =>
    match find? key entries with
    | none => some (put key (.table .byHeading []) entries)
    | some (.table .asParent inner) => some (put key (.table .byHeading inner) entries)
    | some _ => none
  | key :: path, entries =>
    match find? key entries with
    | none => (heading? path []).map fun inner => put key (.table .asParent inner) entries
    | some (.table .inBraces _) => none
    | some (.table origin inner) =>
      (heading? path inner).map fun inner => put key (.table origin inner) entries
    | some _ => none

/-- Changes the table under a path. -/
def within? (change : Entries → Option Entries) : (path : List String) → Entries → Option Entries
  | [], entries => change entries
  | key :: path, entries =>
    match find? key entries with
    | some (.table origin inner) =>
      (within? change path inner).map fun inner => put key (.table origin inner) entries
    | _ => none

/-! ## Values -/

/-- A key and its value, as `value?` reads it; `skip` drops what may stand around the sign between
them. -/
def pair? (skip : List Char → List Char) (value? : List Char → Option (Value × List Char))
    (text : List Char) : Option ((List String × Value) × List Char) := do
  let (path, rest) ← path? (text.length + 1) text
  match skip rest with
  | '=' :: rest => do
    let (v, rest) ← value? (skip rest)
    some ((path, v), rest)
  | _ => none

/-- The entries of a table in braces, up to the closing brace. -/
def braces? (value? : List Char → Option (Value × List Char)) :
    (fuel : Nat) → Entries → List Char → Option (Entries × List Char)
  | 0, _, _ => none
  | fuel + 1, entries, text =>
    match skipAll text with
    | '}' :: rest => some (entries, rest)
    | text => do
      let ((path, v), rest) ← pair? skipAll value? text
      let entries ← add? v path entries
      match skipAll rest with
      | ',' :: rest => braces? value? fuel entries rest
      | '}' :: rest => some (entries, rest)
      | _ => none

/-- A value whose tables nest at most `depth` deep. -/
def value? : (depth : Nat) → List Char → Option (Value × List Char)
  | 0, _ => none
  | depth + 1, text =>
    match text with
    | '"' :: '"' :: '"' :: rest => (block? '"' rest).map fun r => (.text r.1, r.2)
    | '\'' :: '\'' :: '\'' :: rest => (block? '\'' rest).map fun r => (.text r.1, r.2)
    | '"' :: rest => (quoted? '"' rest).map fun r => (.text r.1, r.2)
    | '\'' :: rest => (quoted? '\'' rest).map fun r => (.text r.1, r.2)
    | 't' :: 'r' :: 'u' :: 'e' :: rest => some (.flag true, rest)
    | 'f' :: 'a' :: 'l' :: 's' :: 'e' :: rest => some (.flag false, rest)
    | '[' :: rest =>
      match skipAll rest with
      | ']' :: rest => some (.emptyList, rest)
      | _ => none
    | '{' :: rest =>
      (braces? (value? depth) (rest.length + 1) [] rest).map fun r =>
        (.table .inBraces r.1, r.2)
    | _ => none

/-- How deep tables in braces nest. -/
def maxDepth : Nat := 80

/-! ## Documents -/

/-- What follows the heading of a table, and the path it names. -/
def headingLine? (text : List Char) : Option (List String × List Char) := do
  let (path, rest) ← path? (text.length + 1) text
  match rest with
  | ']' :: rest => do
    let rest ← afterLine? rest
    some (path, rest)
  | _ => none

/-- Reads lines into the table under `current`. -/
def lines? : (fuel : Nat) → (current : List String) → Entries → List Char → Option Entries
  | 0, _, _, _ => none
  | fuel + 1, current, entries, text =>
    match skipAll text with
    | [] => some entries
    | '[' :: rest => do
      let (path, rest) ← headingLine? rest
      let entries ← heading? path entries
      lines? fuel path entries rest
    | text => do
      let ((path, v), rest) ← pair? skipBlank (value? maxDepth) text
      let rest ← afterLine? rest
      let entries ← within? (add? v path) current entries
      lines? fuel current entries rest

/-- Reads a document; a mark of the byte order at its beginning does not count. -/
def read? (text : String) : Option Entries :=
  match text.toList with
  | '\ufeff' :: cs => lines? (cs.length + 1) [] [] cs
  | cs => lines? (cs.length + 1) [] [] cs

end LogLens.Toml
