import LogLens.Pattern.Property
/-!
# Places between characters

An anchor asks for a place by the characters before and after it. What counts as a character of a
word depends on whether Unicode is switched on.
-/

namespace LogLens.Pattern

/-- The characters of words within ASCII. -/
def asciiWord : List Range := [⟨0x30, 0x39⟩, ⟨0x41, 0x5A⟩, ⟨0x5F, 0x5F⟩, ⟨0x61, 0x7A⟩]

/-- What an anchor asks of the characters before and after a place. -/
inductive Place where
  | textStart
  | textEnd
  | lineStart
  | lineEnd
  | crlfStart
  | crlfEnd
  | wordBoundary (unicode : Bool)
  | notWordBoundary (unicode : Bool)
  | wordStart (unicode : Bool)
  | wordEnd (unicode : Bool)
  | wordStartHalf (unicode : Bool)
  | wordEndHalf (unicode : Bool)
  deriving DecidableEq, Repr

/-- Whether there is a character and it is one of a word. -/
def isWord (unicode : Bool) (c : Option Char) : Bool :=
  match c with
  | none => false
  | some c => if unicode then wordClass.has c else CharClass.inRanges c.toNat asciiWord

namespace Place

/-- Whether a place is between these two characters; a side without one is an end of the text. -/
def holds (place : Place) (before after : Option Char) : Bool :=
  match place with
  | textStart => before.isNone
  | textEnd => after.isNone
  | lineStart => before.isNone || before == some '\n'
  | lineEnd => after.isNone || after == some '\n'
  | crlfStart =>
    before.isNone || before == some '\n' || (before == some '\r' && after != some '\n')
  | crlfEnd =>
    after.isNone || after == some '\r' || (after == some '\n' && before != some '\r')
  | wordBoundary u => isWord u before != isWord u after
  | notWordBoundary u => isWord u before == isWord u after
  | wordStart u => !isWord u before && isWord u after
  | wordEnd u => isWord u before && !isWord u after
  | wordStartHalf u => !isWord u before
  | wordEndHalf u => !isWord u after

end Place

end LogLens.Pattern
