import LogLens.Pattern.Tree
/-!
# Reading escapes

An escape is a backslash and what follows it: a character by its number, a property, a class with a
letter of its own, an anchor or a character that would otherwise mean something else. Every reader
here takes a cursor and gives what it read together with the cursor after it, or the mistake that
keeps the text from being an escape.
-/

namespace LogLens.Pattern

/-- The value of a hexadecimal digit. -/
def hexDigit? (c : Char) : Option Nat :=
  if '0' ≤ c ∧ c ≤ '9' then some (c.toNat - 48)
  else if 'a' ≤ c ∧ c ≤ 'f' then some (c.toNat - 87)
  else if 'A' ≤ c ∧ c ≤ 'F' then some (c.toNat - 55)
  else none

/-- The character of a number, when there is one. -/
def scalar? (n : Nat) : Option Char :=
  if n < 0xD800 ∨ (0xDFFF < n ∧ n < 0x110000) then some (Char.ofNat n) else none

/-- Takes characters up to the first one that is not `ok`, dropping what does not count after each.
Every step takes a character, so the length of the text is fuel enough. -/
def takeLoose (verbose : Bool) (ok : Char → Bool) : (fuel : Nat) → Cursor → List Char × Cursor
  | 0, c => ([], c)
  | fuel + 1, c =>
    match c.text with
    | [] => ([], c)
    | d :: _ =>
      if ok d then
        let (taken, rest) := takeLoose verbose ok fuel (c.stepShown verbose)
        (d :: taken, rest)
      else ([], c)

/-- Takes characters as `takeLoose` does, as far as the text goes. -/
def takeShown (verbose : Bool) (ok : Char → Bool) (c : Cursor) : List Char × Cursor :=
  takeLoose verbose ok c.text.length c

/-- A fixed number of hexadecimal digits, the first of which is due at the cursor. -/
def fixedHex (verbose : Bool) (n : Nat) : (missing : Nat) → Cursor → Except Mistake (Nat × Cursor)
  | 0, c => .ok (n, c)
  | missing + 1, c =>
    match c.text with
    | [] => mistaken .escapeUnfinished c.here
    | d :: _ =>
      match hexDigit? d with
      | none => mistaken .hexDigit c.one
      | some v => fixedHex verbose (n * 16 + v) missing (c.stepShown verbose)

/-- The number of hexadecimal digits up to the closing brace, and whether there are any. -/
def bracedHex (verbose : Bool) (opening : Position) (n : Option Nat) :
    (fuel : Nat) → Cursor → Except Mistake (Option Nat × Cursor)
  | 0, c => mistaken .escapeUnfinished (c.since opening)
  | fuel + 1, c =>
    match c.text with
    | [] => mistaken .escapeUnfinished (c.since opening)
    | '}' :: _ => .ok (n, c)
    | d :: _ =>
      match hexDigit? d with
      | none => mistaken .hexDigit c.one
      | some v => bracedHex verbose opening (some (n.getD 0 * 16 + v)) fuel (c.stepShown verbose)

/-- A character by its number, from the letter of the escape on; without braces the number has
`width` digits. -/
def numbered (verbose : Bool) (escape : Position) (width : Nat) (c : Cursor) :
    Except Mistake (Literal × Cursor) :=
  let c := c.stepShown verbose
  match c.text with
  | [] => mistaken .escapeUnfinished c.here
  | '{' :: _ => do
    let inner := c.stepShown verbose
    let (n, closing) ← bracedHex verbose c.position none (inner.text.length + 1) inner
    let rest := closing.stepShown verbose
    match n with
    | none => mistaken .hexEmpty (rest.since c.position)
    | some n =>
      match scalar? n with
      | none => mistaken .hexNoCharacter (closing.since c.step.position)
      | some d => .ok (⟨d, false, rest.since escape⟩, rest)
  | _ => do
    let (n, rest) ← fixedHex verbose 0 width c
    match scalar? n with
    | none => mistaken .hexNoCharacter (rest.since c.position)
    | some d => .ok (⟨d, width == 2, rest.since escape⟩, rest)

/-- What the name between braces asks for, and whether it negates. -/
def queryOf (name : List Char) : Bool × Query :=
  match Text.cutAt? ['!', '='] name with
  | some (kind, value) => (true, .valued kind value)
  | none =>
    match Text.cutAt? [':'] name with
    | some (kind, value) => (false, .valued kind value)
    | none =>
      match Text.cutAt? ['='] name with
      | some (kind, value) => (false, .valued kind value)
      | none => (false, .named name)

/-- A property, from the letter of the escape on. -/
def property (verbose : Bool) (escape : Position) (negated : Bool) (c : Cursor) :
    Except Mistake (Tree × Cursor) :=
  let c := c.stepShown verbose
  match c.text with
  | [] => mistaken .escapeUnfinished c.here
  | '{' :: _ =>
    let (name, closing) := takeShown verbose (· != '}') (c.stepShown verbose)
    if closing.text.isEmpty then mistaken .escapeUnfinished closing.here
    else
      let (differs, query) := queryOf name
      .ok (.property (closing.step.since escape) (negated != differs) query, closing.step)
  | '\\' :: _ => mistaken .propertyLetter c.one
  | d :: _ =>
    let rest := c.stepShown verbose
    .ok (.property (rest.since escape) negated (.named [d]), rest)

/-- Whether a character can stand in the name of a place between braces. -/
def isPlaceChar (c : Char) : Bool := c.isAlpha || c == '-'

/-- The place of a word that a name between braces asks for. -/
def placeOfName? : String → Option Anchor
  | "start" => some .wordStart
  | "end" => some .wordEnd
  | "start-half" => some .wordStartHalf
  | "end-half" => some .wordEndHalf
  | _ => none

/-- The place of a word that is asked for between braces, from the opening brace on. There is none
when the braces begin with something that stands in no name; they may be a count then. -/
def bracedPlace (verbose : Bool) (escape : Position) (c : Cursor) :
    Except Mistake (Option (Anchor × Cursor)) :=
  let inner := c.stepShown verbose
  match inner.text with
  | [] => mistaken .boundaryUnfinished (inner.since escape)
  | d :: _ =>
    if !isPlaceChar d then .ok none
    else
      let (name, closing) := takeShown verbose isPlaceChar inner
      match closing.text with
      | '}' :: _ =>
        match placeOfName? (String.ofList name) with
        | some a => .ok (some (a, closing.step))
        | none => mistaken .boundaryUnknown (closing.since inner.position)
      | _ => mistaken .boundaryUnclosed (closing.since c.position)

/-- The anchor of a word boundary; a name between braces may follow it. -/
def wordPlace (verbose : Bool) (escape : Position) (c : Cursor) :
    Except Mistake (Tree × Cursor) :=
  match c.text with
  | '{' :: _ => do
    match ← bracedPlace verbose escape c with
    | some (a, rest) => .ok (.anchor (rest.since escape) a, rest)
    | none => .ok (.anchor (c.since escape) .wordBoundary, c)
  | _ => .ok (.anchor (c.since escape) .wordBoundary, c)

/-- Whether a character may stand for itself after a backslash: ASCII, but no letter or digit, and
not the two marks of word boundaries. -/
def mayBeEscaped (c : Char) : Bool :=
  decide (c.toNat < 128) && !c.isAlphanum && c != '<' && c != '>'

/-- The character that a letter after a backslash stands for. -/
def control? : Char → Option Char
  | 'a' => some '\x07'
  | 'f' => some '\x0c'
  | 't' => some '\t'
  | 'n' => some '\n'
  | 'r' => some '\r'
  | 'v' => some '\x0b'
  | _ => none

/-- The anchor that a character after a backslash stands for. -/
def anchor? : Char → Option Anchor
  | 'A' => some .textStart
  | 'z' => some .textEnd
  | 'B' => some .notWordBoundary
  | '<' => some .wordStart
  | '>' => some .wordEnd
  | _ => none

/-- The class that a letter after a backslash stands for, and whether it is negated. -/
def shorthand? : Char → Option (Bool × Shorthand)
  | 'd' => some (false, .digit)
  | 'D' => some (true, .digit)
  | 's' => some (false, .space)
  | 'S' => some (true, .space)
  | 'w' => some (false, .word)
  | 'W' => some (true, .word)
  | _ => none

/-- An escape of two characters, of which the cursor is at the second one. -/
def shortEscape (verbose : Bool) (escape : Position) (d : Char) (c : Cursor) :
    Except Mistake (Tree × Cursor) :=
  let rest := c.step
  let span := rest.since escape
  match shorthand? d, control? d, anchor? d with
  | some (negated, kind), _, _ => .ok (.shorthand span negated kind, rest)
  | none, some control, _ => .ok (.literal ⟨control, false, span⟩, rest)
  | none, none, some a => .ok (.anchor span a, rest)
  | none, none, none =>
    if d.isDigit then mistaken .backreference span
    else if d = 'b' then wordPlace verbose escape rest
    else if mayBeEscaped d then .ok (.literal ⟨d, false, span⟩, rest)
    else mistaken .escapeUnknown span

/-- An escape, from its backslash on. -/
def escape (verbose : Bool) (c : Cursor) : Except Mistake (Tree × Cursor) :=
  let inner := c.step
  match inner.text with
  | [] => mistaken .escapeUnfinished (inner.since c.position)
  | 'x' :: _ => (numbered verbose c.position 2 inner).map fun r => (.literal r.1, r.2)
  | 'u' :: _ => (numbered verbose c.position 4 inner).map fun r => (.literal r.1, r.2)
  | 'U' :: _ => (numbered verbose c.position 8 inner).map fun r => (.literal r.1, r.2)
  | 'p' :: _ => property verbose c.position false inner
  | 'P' :: _ => property verbose c.position true inner
  | d :: _ => shortEscape verbose c.position d inner

end LogLens.Pattern
