import LogLens.Pattern.Reader.Escape
/-!
# Reading the beginnings of groups and counts

A parenthesis begins a group that keeps what it matches, with or without a name, a group that only
holds together and may change flags, or it is no group at all but a change of flags for what
follows. A count in braces says how often something is repeated.
-/

namespace LogLens.Pattern

/-- The name of a group that keeps what it matches, and where it stands. -/
structure GroupName where
  text : String
  span : Span
  deriving DecidableEq, Repr

/-- Whether a character can stand in the name of a group. -/
def isNameChar (first : Bool) (c : Char) : Bool :=
  c == '_' || alphabetic.has c ||
    (!first && (c == '.' || c == '[' || c == ']' || (categories.union ["nd", "nl", "no"]).has c))

/-- The characters of a name up to the closing mark, at which the cursor is left. -/
def nameChars (first : Bool) (p : Position) : List Char → Except Mistake (List Char × Cursor)
  | [] => mistaken .nameUnclosed (.point p)
  | d :: rest =>
    if d = '>' then .ok ([], ⟨p, d :: rest⟩)
    else if !isNameChar first d then mistaken .nameCharacter ⟨p, p.after d⟩
    else do
      let (chars, closing) ← nameChars false (p.after d) rest
      .ok (d :: chars, closing)

/-- The name of a group, from after its opening mark; `names` are those in use. -/
def groupName (names : List GroupName) (c : Cursor) : Except Mistake (GroupName × Cursor) := do
  let (chars, closing) ← nameChars true c.position c.text
  if chars.isEmpty then mistaken .nameEmpty c.here
  else
    let name : GroupName := ⟨String.ofList chars, closing.since c.position⟩
    match names.find? fun n => n.text == name.text with
    | some n => .error ⟨.nameRepeated, name.span, some n.span⟩
    | none => .ok (name, closing.step)

/-- A flag that was read, or the minus that switches flags off, and where. -/
structure FlagItem where
  flag : Option Flag
  span : Span
  deriving DecidableEq, Repr

/-- What flags say, the minus switching off those after it. -/
def changeOf (on : Bool) : List FlagItem → FlagChange
  | [] => []
  | item :: rest =>
    match item.flag with
    | some flag => (flag, on) :: changeOf on rest
    | none => changeOf false rest

/-- The flags up to the mark after them, at which the cursor is left; `seen` are the ones before the
cursor, the last one first. -/
def flagItems (seen : List FlagItem) (p : Position) :
    List Char → Except Mistake (List FlagItem × Cursor)
  | [] => mistaken .flagsUnfinished (.point p)
  | d :: rest =>
    if d = ':' ∨ d = ')' then
      match seen with
      | ⟨none, minus⟩ :: _ => mistaken .minusAlone minus
      | _ => .ok (seen.reverse, ⟨p, d :: rest⟩)
    else
      let span : Span := ⟨p, p.after d⟩
      match (if d = '-' then some none else (Flag.ofLetter? d).map some) with
      | none => mistaken .flagUnknown span
      | some flag =>
        match seen.find? fun item => item.flag == flag with
        | some item =>
          .error ⟨if flag.isNone then .minusRepeated else .flagRepeated, span, some item.span⟩
        | none => flagItems (⟨flag, span⟩ :: seen) (p.after d) rest

/-- The value of a flag after a change. -/
def stateOf (flag : Flag) (before : Bool) (change : FlagChange) : Bool :=
  match change.find? fun item => item.1 == flag with
  | some item => item.2
  | none => before

/-- What the opening of a group says. -/
inductive Opening where
  | change (flags : FlagChange)
  | group (flags : FlagChange)
  | capture (name : Option GroupName)

/-- The beginnings of groups that look ahead or behind. -/
def lookMarks : List (List Char) := [['?', '='], ['?', '!'], ['?', '<', '='], ['?', '<', '!']]

/-- The opening of a group, from its parenthesis on. -/
def opening (verbose : Bool) (names : List GroupName) (c : Cursor) :
    Except Mistake (Opening × Cursor) :=
  let inner := c.stepShown verbose
  match lookMarks.findSome? fun mark => inner.past? mark with
  | some rest => mistaken .lookAround (rest.since c.position)
  | none =>
    match (inner.past? ['?', 'P', '<']).or (inner.past? ['?', '<']) with
    | some rest => (groupName names rest).map fun r => (.capture (some r.1), r.2)
    | none =>
      match inner.past? ['?'] with
      | none => .ok (.capture none, inner)
      | some rest =>
        if rest.text.isEmpty then mistaken .groupUnclosed c.one
        else do
          let (items, closing) ← flagItems [] rest.position rest.text
          match closing.text with
          | ':' :: _ => .ok (.group (changeOf true items), closing.step)
          | _ =>
            if items.isEmpty then mistaken .nothingToRepeat inner.here
            else .ok (.change (changeOf true items), closing.step)

/-! ## Counts -/

/-- Numbers in counts are less than this. -/
def countBound : Nat := 4294967296

/-- A number of a count, with blank characters around it. -/
def countNumber (verbose : Bool) (c : Cursor) : Except Mistake Nat × Cursor :=
  let start := c.afterBlanks
  let (digits, closing) := takeShown verbose Char.isDigit start
  let rest := if verbose then closing.shown true else closing.afterBlanks
  let n := digits.foldl (fun n d => n * 10 + (d.toNat - 48)) 0
  if digits.isEmpty then (mistaken .countEmpty (closing.since start.position), rest)
  else if countBound ≤ n then (mistaken .numberTooLarge (closing.since start.position), rest)
  else (.ok n, rest)

/-- The least and the greatest number of a count, from its opening brace on; the cursor is left at
the closing one. -/
def countRange (verbose : Bool) (c : Cursor) :
    Except Mistake ((Nat × Option Nat) × Cursor) :=
  let inner := c.stepShown verbose
  if inner.text.isEmpty then mistaken .countUnclosed (inner.since c.position)
  else
    let (least, rest) := countNumber verbose inner
    match rest.text with
    | [] => mistaken .countUnclosed (rest.since c.position)
    | ',' :: _ =>
      let after := rest.stepShown verbose
      match after.text with
      | [] => mistaken .countUnclosed (after.since c.position)
      | '}' :: _ => least.map fun n => ((n, none), after)
      | _ => do
        let least ← least
        let (most, rest) := countNumber verbose after
        let most ← most
        .ok ((least, some most), rest)
    | _ => least.map fun n => ((n, some n), rest)

/-- A count in braces and whether it prefers many, from the opening brace on. -/
def count (verbose : Bool) (c : Cursor) :
    Except Mistake ((Nat × Option Nat × Bool) × Cursor) := do
  let ((least, most), closing) ← countRange verbose c
  match closing.text with
  | '}' :: _ =>
    let rest := closing.stepShown verbose
    let (greedy, rest) :=
      match rest.past? ['?'] with
      | some after => (false, after)
      | none => (true, rest)
    if (most.map fun m => decide (m < least)) == some true then
      mistaken .countOrder (rest.since c.position)
    else .ok ((least, most, greedy), rest)
  | _ => mistaken .countUnclosed (closing.since c.position)

end LogLens.Pattern
