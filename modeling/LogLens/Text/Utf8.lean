/-!
# Text and its bytes

A text is written in UTF-8. `byteCount` is the length of a text in bytes. `decode?` gives the text
that a list of bytes encodes, and `firstFault?` says of bytes that encode none where they go wrong:
after how many good bytes, and how many bytes belong together in the fault. The bytes after an
incomplete character at the very end have no such count, since more of them could still follow.

A character is one byte below 0x80 or a leading byte with one to three continuation bytes. After
some leading bytes the first continuation byte has a narrower range, which keeps out overlong forms,
surrogates and numbers above the last code point.
-/

namespace LogLens.Text

/-- The number of bytes of a text. -/
def byteCount : List Char → Nat
  | [] => 0
  | c :: cs => c.utf8Size + byteCount cs

/-- The bytes of a text. -/
def encode (s : String) : List UInt8 := s.toUTF8.toList

/-- The text that the bytes encode. -/
def decode? (bytes : List UInt8) : Option String := String.fromUTF8? ⟨bytes.toArray⟩

/-- Whether a byte continues a character. -/
def isContinuation (b : UInt8) : Bool := 0x80 ≤ b && b ≤ 0xBF

/-- How many continuation bytes follow a leading byte, and the range of the first one. -/
def leading? (b : UInt8) : Option (Nat × UInt8 × UInt8) :=
  if 0xC2 ≤ b && b ≤ 0xDF then some (1, 0x80, 0xBF)
  else if b == 0xE0 then some (2, 0xA0, 0xBF)
  else if b == 0xED then some (2, 0x80, 0x9F)
  else if 0xE1 ≤ b && b ≤ 0xEF then some (2, 0x80, 0xBF)
  else if b == 0xF0 then some (3, 0x90, 0xBF)
  else if 0xF1 ≤ b && b ≤ 0xF3 then some (3, 0x80, 0xBF)
  else if b == 0xF4 then some (3, 0x80, 0x8F)
  else none

/-- A place where bytes stop being UTF-8. -/
structure Utf8Fault where
  /-- How many bytes before it encode a text. -/
  valid : Nat
  /-- How many bytes belong to the fault; `none` when the bytes end inside of a character. -/
  length : Option Nat
  deriving DecidableEq, Repr

/-- The continuation bytes of a character: the rest after them, or how many of the bytes belong to
the fault. `seen` bytes of the character are read already. -/
def continuation : (missing seen : Nat) → List UInt8 → Except (Option Nat) (List UInt8)
  | 0, _, rest => .ok rest
  | _ + 1, _, [] => .error none
  | missing + 1, seen, b :: rest =>
    if isContinuation b then continuation missing (seen + 1) rest else .error (some seen)

/-- The bytes after one character, or how many bytes belong to the fault. -/
def afterCharacter (first : UInt8) (rest : List UInt8) : Except (Option Nat) (List UInt8) :=
  if first < 0x80 then .ok rest
  else
    match leading? first, rest with
    | none, _ => .error (some 1)
    | some _, [] => .error none
    | some (more, low, high), second :: rest =>
      if low ≤ second && second ≤ high then continuation (more - 1) 2 rest else .error (some 1)

/-- Walks over the characters; `valid` bytes are behind. Every round takes a byte, so the number of
bytes is fuel enough. -/
def faultFrom : (fuel valid : Nat) → List UInt8 → Option Utf8Fault
  | 0, _, _ => none
  | _ + 1, _, [] => none
  | fuel + 1, valid, b :: rest =>
    match afterCharacter b rest with
    | .ok left => faultFrom fuel (valid + (rest.length + 1 - left.length)) left
    | .error length => some ⟨valid, length⟩

/-- Where the bytes stop being UTF-8. -/
def firstFault? (bytes : List UInt8) : Option Utf8Fault := faultFrom (bytes.length + 1) 0 bytes

/-- The wording of a fault. -/
def Utf8Fault.message (fault : Utf8Fault) : String :=
  match fault.length with
  | some n =>
    "invalid utf-8 sequence of " ++ toString n ++ " bytes from index " ++ toString fault.valid
  | none => "incomplete utf-8 byte sequence from index " ++ toString fault.valid

end LogLens.Text
