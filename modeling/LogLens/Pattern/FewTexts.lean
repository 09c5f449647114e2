import LogLens.Pattern.Expr
/-!
# Expressions that are a few short texts

An expression that matches only a few short texts needs no automaton: it is searched for by the
texts themselves. `Expr.texts?` gives these texts, as bytes and in the order in which they are
preferred. An expression that matches nothing has no texts, whatever follows it in its row.

The search may look for shorter beginnings of the texts first, where those are good to look for: a
rare first byte, a long common beginning, or some bytes of each of many texts. Then an automaton has
to tell whether a text follows (`isExact`).
-/

namespace LogLens.Pattern

/-- Texts as bytes. -/
abbrev Texts := List (List Nat)

namespace Texts

/-- How many texts are kept. -/
def maxCount : Nat := 250

/-- How many bytes a text may have. -/
def maxBytes : Nat := 100

/-- How many characters of a class and how many repetitions are written out. -/
def maxChoices : Nat := 10

/-- Leaves out a text that is equal to the one before. -/
def withoutRepeats : Texts → Texts
  | [] => []
  | t :: rest =>
    match withoutRepeats rest with
    | [] => [t]
    | u :: others => if t = u then u :: others else t :: u :: others

/-- The texts of a list, when none of them is too long. -/
def ofList? (ts : Texts) : Option Texts :=
  if ts.any fun t => maxBytes < t.length then none else some (withoutRepeats ts)

/-- Every one of some texts followed by every one of others. -/
def joined? (ts us : Texts) : Option Texts :=
  if maxCount < ts.length * us.length then none
  else ofList? (ts.flatMap fun t => us.map fun u => t ++ u)

/-- Texts, and others that are less preferred. -/
def either? (ts us : Texts) : Option Texts :=
  if maxCount < ts.length + us.length then none else some (withoutRepeats (ts ++ us))

/-- `n` texts after each other. -/
def power? (ts : Texts) : (n : Nat) → Option Texts
  | 0 => some [[]]
  | n + 1 => (power? ts n).bind fun before => joined? before ts

/-- The texts of a class with few characters. -/
def ofClass? (cls : CharClass) : Option Texts :=
  let count := cls.ranges.foldl (fun n r => n + (r.high + 1 - r.low)) 0
  if maxChoices < count then none
  else some (cls.ranges.flatMap fun r =>
    (List.range (r.high + 1 - r.low)).map fun i => codeBytes (r.low + i))

/-- The texts of a repetition. -/
def repeated? (ts : Option Texts) (least : Nat) (most : Option Nat) (greedy : Bool) :
    Option Texts :=
  match ts, least with
  | some [], 0 => some [[]]
  | some [], _ => some []
  | none, _ => none
  | some ts, 0 =>
    if most = some 1 then (if greedy then either? ts [[]] else either? [[]] ts) else none
  | some ts, n => if most = some n ∧ n ≤ maxChoices then power? ts n else none

/-! ## Searching -/

/-- The bytes that are common in texts. -/
def commonBytes : List Range :=
  [⟨0x0A, 0x0A⟩, ⟨0x0D, 0x0D⟩, ⟨0x20, 0x20⟩, ⟨0x28, 0x29⟩, ⟨0x2C, 0x32⟩, ⟨0x39, 0x3A⟩, ⟨0x5F, 0x5F⟩,
    ⟨0x61, 0x69⟩, ⟨0x6C, 0x70⟩, ⟨0x72, 0x76⟩, ⟨0x78, 0x79⟩, ⟨0x7C, 0x7C⟩, ⟨0x80, 0x84⟩,
    ⟨0x90, 0x90⟩, ⟨0xB1, 0xB1⟩, ⟨0xB5, 0xB7⟩, ⟨0xB9, 0xBD⟩, ⟨0xBF, 0xFF⟩]

/-- Leaves out the texts that begin with a text before them, as far as their first bytes tell.
`kept` are those before, the last one first. -/
def distinct (bytes : Nat) (kept : Texts) : Texts → Texts
  | [] => kept.reverse
  | t :: rest =>
    if kept.any fun k => (k.take bytes).isPrefixOf (t.take bytes) then distinct bytes kept rest
    else distinct bytes (t :: kept) rest

/-- What two texts both begin with. -/
def commonStart : List Nat → List Nat → List Nat
  | a :: as, b :: bs => if a = b then a :: commonStart as bs else []
  | _, _ => []

/-- What all texts begin with. -/
def sharedStart : Texts → List Nat
  | [] => []
  | t :: rest => rest.foldl commonStart t

/-- How many bytes of each text are looked for while there are more than so many texts. -/
def shortenings : List (Nat × Nat) := [(5, 10), (4, 10), (3, 64), (2, 64), (1, 10)]

/-- How many bytes of each text are looked for, and the texts that these bytes tell apart. -/
def shortened : List (Nat × Nat) → (bytes : Nat) → Texts → Nat × Texts
  | [], bytes, ts => (bytes, ts)
  | (fewer, count) :: rest, bytes, ts =>
    if ts.length ≤ count then (bytes, ts) else shortened rest fewer (distinct fewer [] ts)

/-- Whether texts are searched for as they are: finding what is looked for tells that a text is
there. -/
def isExact (ts : Texts) : Bool :=
  let kept := distinct maxBytes [] ts
  let start := sharedStart kept
  let isRare := start.head?.any fun b => !CharClass.inRanges b commonBytes
  if 1 < ts.length ∧ start.length ≤ 3 ∧ isRare then kept.all fun t => decide (t.length ≤ 1)
  else if 4 < start.length ∨ (1 < start.length ∧ 16 < kept.length) then
    decide (kept.length = 1)
  else
    let (bytes, short) := shortened shortenings maxBytes kept
    let isBetter :=
      short.all (fun t => decide (2 < min bytes t.length)) && decide (short.length ≤ 64)
    !isBetter || short.all fun t => decide (t.length ≤ bytes)

end Texts

namespace Expr

mutual

/-- Whether an expression has neither places nor groups that keep what they match. -/
def isPlain : Expr → Bool
  | place _ => false
  | capture _ _ => false
  | repetition e _ _ _ => isPlain e
  | row es => allPlain es
  | choice es => allPlain es
  | _ => true

/-- Whether all of some expressions are so. -/
def allPlain : List Expr → Bool
  | [] => true
  | e :: es => isPlain e && allPlain es

end

mutual

/-- The texts that an expression without places and groups matches, when they are few and short. -/
def texts? : Expr → Option Texts
  | empty => some [[]]
  | text cs => Texts.ofList? [cs.flatMap fun c => codeBytes c.toNat]
  | oneOf cls => Texts.ofClass? cls
  | place _ => some [[]]
  | repetition e least most greedy => Texts.repeated? (texts? e) least most greedy
  | capture _ e => texts? e
  | row es => rowTexts? [[]] es
  | choice es => choiceTexts? [] es

/-- The texts of some expressions in a row after other texts. -/
def rowTexts? (before : Texts) : List Expr → Option Texts
  | [] => some before
  | e :: es =>
    if before.isEmpty then some []
    else
      (texts? e).bind fun ts => (before.joined? ts).bind fun before => rowTexts? before es

/-- The texts of some branches, and other texts before them. -/
def choiceTexts? (before : Texts) : List Expr → Option Texts
  | [] => some before
  | e :: es =>
    (texts? e).bind fun ts => (before.either? ts).bind fun before => choiceTexts? before es

end

/-- How many texts as branches are always searched for as they are. -/
def manyTexts : Nat := 3000

/-- Whether an expression is searched for by its texts alone. -/
def isFewTexts (e : Expr) : Bool :=
  match e with
  | choice es =>
    (decide (manyTexts ≤ es.length) && es.all fun e => e matches text _) || plainTexts e
  | e => plainTexts e
where
  plainTexts (e : Expr) : Bool :=
    e.isPlain && (texts? e).any fun ts => !ts.isEmpty && !ts.contains [] && ts.isExact

end Expr

end LogLens.Pattern
