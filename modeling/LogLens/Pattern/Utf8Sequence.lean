import LogLens.Pattern.CharClass
/-!
# Ranges of characters as sequences of byte ranges

An automaton reads bytes, so a range of characters is given to it as sequences of byte ranges: a
text of one character is in the range when its bytes are in the ranges of one sequence, one byte in
each. To have such sequences a range is cut where the number of bytes changes, at the surrogates,
and then so that only the last bytes of both ends differ, or else run through all continuation
bytes. `Range.sequences` gives the sequences in ascending order.
-/

namespace LogLens.Pattern

/-- The number of bytes of a code point. -/
def codeWidth (c : Nat) : Nat :=
  if c < 0x80 then 1 else if c < 0x800 then 2 else if c < 0x10000 then 3 else 4

/-- The continuation byte that holds six bits of a code point, `places` groups from the end. -/
def continuationByte (places c : Nat) : Nat := 0x80 + (c >>> (6 * places)) % 64

/-- The bytes of a code point. -/
def codeBytes (c : Nat) : List Nat :=
  match codeWidth c with
  | 1 => [c]
  | 2 => [0xC0 + c / 64, continuationByte 0 c]
  | 3 => [0xE0 + c / 4096, continuationByte 1 c, continuationByte 0 c]
  | _ => [0xF0 + c / 262144, continuationByte 2 c, continuationByte 1 c, continuationByte 0 c]

namespace Range

/-- The two parts of a range up to `c` and after it, when there are code points in both. -/
def cutAfter (c : Nat) (r : Range) : List Range :=
  if r.low ≤ c ∧ c < r.high then [⟨r.low, c⟩, ⟨c + 1, r.high⟩] else [r]

/-- Takes the surrogates out of a range. -/
def cutSurrogates (r : Range) : List Range :=
  if r.low < 0xE000 ∧ 0xD7FF < r.high then [⟨r.low, 0xD7FF⟩, ⟨0xE000, r.high⟩] else [r]

/-- Cuts off the incomplete block at the end of a range that goes over several blocks. -/
def alignEnd (block : Nat) (r : Range) : List Range :=
  let lastBlock := r.high / block * block
  if r.low / block ≠ r.high / block ∧ r.high % block ≠ block - 1 then
    [⟨r.low, lastBlock - 1⟩, ⟨lastBlock, r.high⟩]
  else [r]

/-- Cuts off the incomplete blocks at both ends of a range that goes over several blocks. -/
def align (block : Nat) (r : Range) : List Range :=
  let nextBlock := (r.low / block + 1) * block
  if r.low / block ≠ r.high / block ∧ r.low % block ≠ 0 then
    ⟨r.low, nextBlock - 1⟩ :: alignEnd block ⟨nextBlock, r.high⟩
  else alignEnd block r

/-- The parts of a range whose characters differ in complete groups of six bits only. -/
def aligned (r : Range) : List Range :=
  if r.high < 0x80 then [r]
  else ((align 64 r).flatMap (align 4096)).flatMap (align 262144)

/-- The sequences of byte ranges of a range of characters. -/
def sequences (r : Range) : List (List Range) :=
  let parts := r.cutSurrogates.flatMap fun r =>
    ((r.cutAfter 0x7F).flatMap (cutAfter 0x7FF)).flatMap (cutAfter 0xFFFF)
  (parts.flatMap aligned).map fun r =>
    List.zipWith Range.mk (codeBytes r.low) (codeBytes r.high)

end Range

/-- The sequences of byte ranges of a class. -/
def CharClass.sequences (cls : CharClass) : List (List Range) := cls.ranges.flatMap Range.sequences

end LogLens.Pattern
