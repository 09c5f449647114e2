import LogLens.Text.Utf8
/-!
# Faults of a JSON text

A reader that meets a fault reports what it complains about and how many bytes of the text were
left at that moment. The second number says where the fault is without the reader having to count
from the front: the place is the length of the text less what was left. `Fault.locate` turns it
into a line and a column. Lines are counted from 1; the column is the number of bytes between the
last line break before the place and the place itself.

Two places occur at every step of a reader: *before* what is left, and *at* its first byte. The
second lies one byte further, except at the end of the text.
-/

namespace LogLens.Json

open Text (byteCount)

/-- What a reader complains about. -/
inductive Complaint where
  | unfinishedList
  | unfinishedObject
  | unfinishedText
  | unfinishedValue
  | colonExpected
  | listCommaExpected
  | objectCommaExpected
  | wordExpected
  | valueExpected
  | escapeInvalid
  | numberInvalid
  | numberTooLarge
  | surrogateAlone
  | surrogateUnfinished
  | keyExpected
  | controlCharacter
  | commaTrailing
  | textTrailing
  | nestedTooDeep
  deriving DecidableEq, Repr

/-- The wording of a complaint. -/
def Complaint.message : Complaint → String
  | unfinishedList => "EOF while parsing a list"
  | unfinishedObject => "EOF while parsing an object"
  | unfinishedText => "EOF while parsing a string"
  | unfinishedValue => "EOF while parsing a value"
  | colonExpected => "expected \x60:\x60"
  | listCommaExpected => "expected \x60,\x60 or \x60]\x60"
  | objectCommaExpected => "expected \x60,\x60 or \x60\x7d\x60"
  | wordExpected => "expected ident"
  | valueExpected => "expected value"
  | escapeInvalid => "invalid escape"
  | numberInvalid => "invalid number"
  | numberTooLarge => "number out of range"
  | surrogateAlone => "lone leading surrogate in hex escape"
  | surrogateUnfinished => "unexpected end of hex escape"
  | keyExpected => "key must be a string"
  | controlCharacter =>
    "control character (\\u0000-\\u001F) found while parsing a string"
  | commaTrailing => "trailing comma"
  | textTrailing => "trailing characters"
  | nestedTooDeep => "recursion limit exceeded"

/-- A complaint and the number of bytes that were left. -/
structure Fault where
  complaint : Complaint
  left : Nat
  deriving DecidableEq, Repr

/-- A fault at the place before `rest`. -/
def Fault.before (complaint : Complaint) (rest : List Char) : Fault :=
  ⟨complaint, byteCount rest⟩

/-- A fault at the first byte of `rest`, or at the end when nothing is left. -/
def Fault.at (complaint : Complaint) (rest : List Char) : Fault :=
  ⟨complaint, byteCount rest - 1⟩

/-- A complaint with its line and column. -/
structure ReadError where
  complaint : Complaint
  line : Nat
  column : Nat
  deriving DecidableEq, Repr

/-- Line and column after the first `bytes` bytes of a text, counting on from those given. -/
def place (line column : Nat) : (bytes : Nat) → List Char → Nat × Nat
  | bytes, [] => (line, column + bytes)
  | bytes, c :: cs =>
    if bytes < c.utf8Size then (line, column + bytes)
    else if c = '\n' then place (line + 1) 0 (bytes - c.utf8Size) cs
    else place line (column + c.utf8Size) (bytes - c.utf8Size) cs

/-- The fault of a text with its line and column. -/
def Fault.locate (text : List Char) (fault : Fault) : ReadError :=
  let (line, column) := place 1 0 (byteCount text - fault.left) text
  ⟨fault.complaint, line, column⟩

/-- The wording of an error. -/
def ReadError.message (e : ReadError) : String :=
  e.complaint.message ++ " at line " ++ toString e.line ++ " column " ++ toString e.column

end LogLens.Json
