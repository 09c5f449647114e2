import LogLens.Pattern.Reader.Escape
/-!
# Reading sets in brackets

A set is a bracket, a mark for its complement, and then elements, ranges, named classes and further
sets, with operations between them. The reader keeps the brackets and the operations that are still
open, with the items that are read of each. Every round takes at least one character, so the length
of the text is fuel enough.
-/

namespace LogLens.Pattern

/-- The ranges of a named class of ASCII characters. -/
def asciiClass? : (name : String) → Option (List Range)
  | "alnum" => some [⟨0x30, 0x39⟩, ⟨0x41, 0x5A⟩, ⟨0x61, 0x7A⟩]
  | "alpha" => some [⟨0x41, 0x5A⟩, ⟨0x61, 0x7A⟩]
  | "ascii" => some [⟨0, 0x7F⟩]
  | "blank" => some [⟨9, 9⟩, ⟨0x20, 0x20⟩]
  | "cntrl" => some [⟨0, 0x1F⟩, ⟨0x7F, 0x7F⟩]
  | "digit" => some [⟨0x30, 0x39⟩]
  | "graph" => some [⟨0x21, 0x7E⟩]
  | "lower" => some [⟨0x61, 0x7A⟩]
  | "print" => some [⟨0x20, 0x7E⟩]
  | "punct" => some [⟨0x21, 0x2F⟩, ⟨0x3A, 0x40⟩, ⟨0x5B, 0x60⟩, ⟨0x7B, 0x7E⟩]
  | "space" => some [⟨9, 13⟩, ⟨0x20, 0x20⟩]
  | "upper" => some [⟨0x41, 0x5A⟩]
  | "word" => some [⟨0x30, 0x39⟩, ⟨0x41, 0x5A⟩, ⟨0x5F, 0x5F⟩, ⟨0x61, 0x7A⟩]
  | "xdigit" => some [⟨0x30, 0x39⟩, ⟨0x41, 0x46⟩, ⟨0x61, 0x66⟩]
  | _ => none

/-- A named class, from its opening bracket on: a name between colons and a closing bracket. What is
no such class is read as a set instead. -/
def namedSet? (c : Cursor) : Option (SetTree × Cursor) := do
  let inner ← c.past? ['[', ':']
  let (negated, inner) :=
    match inner.past? ['^'] with
    | some rest => (true, rest)
    | none => (false, inner)
  let closing := Cursor.stepWhile (· != ':') inner.position inner.text
  let rest ← closing.past? [':', ']']
  let name := inner.text.takeWhile (· != ':')
  let ranges ← asciiClass? (String.ofList name)
  some (.ascii (rest.since c.position) negated ranges, rest)

/-- One element of a set: an escape or a character. -/
def setElement (verbose : Bool) (c : Cursor) : Except Mistake (Tree × Cursor) :=
  match c.text with
  | '\\' :: _ => escape verbose c
  | d :: _ => .ok (.literal ⟨d, false, c.one⟩, c.step)
  | [] => .ok (.empty c.here, c)

/-- An element that stands alone. -/
def setItem : Tree → Except Mistake SetTree
  | .literal l => .ok (.literal l)
  | .property s negated query => .ok (.property s negated query)
  | .shorthand s negated kind => .ok (.shorthand s negated kind)
  | t => mistaken .setEscape t.span

/-- An element as the end of a range. -/
def rangeEnd : Tree → Except Mistake Literal
  | .literal l => .ok l
  | t => mistaken .rangeEnd t.span

/-- Whether the hyphen at a cursor makes a range. -/
def makesRange (verbose : Bool) (c : Cursor) : Bool :=
  match c.secondShown? verbose with
  | some ']' => false
  | some '-' => false
  | _ => true

/-- An element, or a range of two; `opened` is where the set begins. -/
def setRange (verbose : Bool) (opened : Span) (c : Cursor) : Except Mistake (SetTree × Cursor) := do
  let (first, rest) ← setElement verbose c
  let rest := rest.shown verbose
  match rest.text with
  | [] => mistaken .setUnclosed opened
  | d :: _ =>
    if d = '-' ∧ makesRange verbose rest then do
      let inner := rest.stepShown verbose
      if inner.text.isEmpty then mistaken .setUnclosed opened
      else do
        let (second, rest) ← setElement verbose inner
        let low ← rangeEnd first
        let high ← rangeEnd second
        if low.char.toNat ≤ high.char.toNat then .ok (.range low high, rest)
        else mistaken .rangeOrder ⟨low.span.first, high.span.past⟩
    else do
      let item ← setItem first
      .ok (item, rest)

/-- What is still open while a set is read: a bracket with the items read before it, or an operation
with what stands on its left. -/
inductive SetFrame where
  | bracket (opened : Span) (negated : Bool) (outer : List SetTree) (outerFirst : Position)
  | operation (kind : SetOperation) (left : SetTree)

/-- The beginning of the innermost bracket. -/
def openedLast (fallback : Span) : List SetFrame → Span
  | [] => fallback
  | .bracket opened _ _ _ :: _ => opened
  | .operation _ _ :: rest => openedLast fallback rest

/-- The beginning of a set: whether it is negated, where its items begin, and the items that only
count as such there, hyphens and a closing bracket. -/
structure SetOpening where
  negated : Bool
  first : Position
  items : List SetTree

/-- The hyphens at the beginning of a set. -/
def leadingHyphens (verbose : Bool) (opening : Position) :
    (fuel : Nat) → Cursor → Except Mistake (List SetTree × Cursor)
  | 0, c => .ok ([], c)
  | fuel + 1, c =>
    match c.text with
    | '-' :: _ => do
      let rest := c.stepShown verbose
      if rest.text.isEmpty then mistaken .setUnclosed (.point opening)
      else do
        let (items, rest) ← leadingHyphens verbose opening fuel rest
        .ok (.literal ⟨'-', false, c.one⟩ :: items, rest)
    | _ => .ok ([], c)

/-- Moves on within the beginning of a set, where the text must not end. -/
def stepInSet (verbose : Bool) (opening : Position) (c : Cursor) : Except Mistake Cursor :=
  let rest := c.stepShown verbose
  if rest.text.isEmpty then mistaken .setUnclosed (rest.since opening) else .ok rest

/-- The beginning of a set, from its bracket on. -/
def setOpening (verbose : Bool) (c : Cursor) : Except Mistake (SetOpening × Cursor) := do
  let inner ← stepInSet verbose c.position c
  let (negated, inner) ←
    match inner.text with
    | '^' :: _ => (stepInSet verbose c.position inner).map fun rest => (true, rest)
    | _ => .ok (false, inner)
  let (items, rest) ← leadingHyphens verbose c.position inner.text.length inner
  match items, rest.text with
  | [], ']' :: _ => do
    let after ← stepInSet verbose c.position rest
    .ok (⟨negated, inner.position, [.literal ⟨']', false, rest.one⟩]⟩, after)
  | _, _ => .ok (⟨negated, inner.position, items⟩, rest)

/-- The items since the last operation, the last one first, joined with what stands before it. -/
def joinOperation (first : Position) (items : List SetTree) :
    List SetFrame → SetTree × List SetFrame
  | .operation kind left :: stack =>
    (.operation kind left (SetTree.ofItems first items.reverse), stack)
  | stack => (SetTree.ofItems first items.reverse, stack)

/-- The operation at a cursor: two equal marks. -/
def setOperation? (c : Cursor) : Option (SetOperation × Cursor) :=
  match c.text with
  | '&' :: '&' :: _ => some (.intersection, c.step.step)
  | '-' :: '-' :: _ => some (.difference, c.step.step)
  | '~' :: '~' :: _ => some (.symmetricDifference, c.step.step)
  | _ => none

/-- Reads a set; `items` are those since the last operation, the last one first, and begin at
`first`. -/
def setLoop (verbose : Bool) : (fuel : Nat) → List SetFrame → (first : Position) →
    List SetTree → Cursor → Except Mistake (Tree × Cursor)
  | 0, stack, _, _, c => mistaken .setUnclosed (openedLast c.here stack)
  | fuel + 1, stack, first, items, c =>
    let c := c.shown verbose
    match c.text with
    | [] => mistaken .setUnclosed (openedLast c.here stack)
    | '[' :: _ =>
      match (if stack.isEmpty then none else namedSet? c) with
      | some (item, rest) => setLoop verbose fuel stack first (item :: items) rest
      | none => do
        let (o, rest) ← setOpening verbose c
        setLoop verbose fuel (.bracket (rest.since c.position) o.negated items first :: stack)
          o.first o.items.reverse rest
    | ']' :: _ =>
      match joinOperation first items stack with
      | (inner, [.bracket opened negated _ _]) =>
        .ok (.bracket (c.step.since opened.first) negated inner, c.step)
      | (inner, .bracket opened negated outer outerFirst :: stack) =>
        setLoop verbose fuel stack outerFirst
          (.bracket (c.step.since opened.first) negated inner :: outer) c.step
      | _ => mistaken .setUnclosed c.one
    | _ =>
      match setOperation? c with
      | some (kind, rest) =>
        let (left, stack) := joinOperation first items stack
        setLoop verbose fuel (.operation kind left :: stack) rest.position [] rest
      | none => do
        let (item, rest) ← setRange verbose (openedLast c.here stack) c
        setLoop verbose fuel stack first (item :: items) rest

/-- A set, from its bracket on. -/
def set (verbose : Bool) (c : Cursor) : Except Mistake (Tree × Cursor) :=
  setLoop verbose (c.text.length + 1) [] c.position [] c

end LogLens.Pattern
