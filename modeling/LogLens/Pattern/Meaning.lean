import LogLens.Pattern.CaseFolding
import LogLens.Pattern.Expr
import LogLens.Pattern.Tree
/-!
# The meaning of regular expressions

The meaning of most elements of a tree depends on the flags in force. A change of flags lasts to the
end of the group it stands in, also across branches. Without the Unicode flag classes are sets of
bytes, and a class that holds bytes beyond ASCII is refused, because it would match pieces of
characters.
-/

namespace LogLens.Pattern

/-- The flags in force. -/
structure Flags where
  ignoreCase : Bool := false
  multiLine : Bool := false
  dotAll : Bool := false
  swapGreed : Bool := false
  unicode : Bool := true
  crlf : Bool := false
  deriving DecidableEq, Repr

namespace Flags

/-- Switches flags. -/
def apply (flags : Flags) : FlagChange → Flags
  | [] => flags
  | (flag, on) :: rest =>
    match flag with
    | .ignoreCase => apply { flags with ignoreCase := on } rest
    | .multiLine => apply { flags with multiLine := on } rest
    | .dotAll => apply { flags with dotAll := on } rest
    | .swapGreed => apply { flags with swapGreed := on } rest
    | .unicode => apply { flags with unicode := on } rest
    | .crlf => apply { flags with crlf := on } rest
    | .verbose => apply flags rest

/-- What classes hold. -/
def alphabet (flags : Flags) : Alphabet := if flags.unicode then .characters else .bytes

/-- The class, with its case variants where case does not count. -/
def closed (flags : Flags) (cls : CharClass) : CharClass :=
  if flags.ignoreCase then cls.caseClosed else cls

/-- A class that may be used: one of bytes must be of ASCII characters only. -/
def allowed (flags : Flags) (span : Span) (cls : CharClass) : Except Mistake CharClass :=
  if flags.unicode || cls.isAscii then .ok cls else mistaken .notUtf8 span

/-- A class or its complement. -/
def signed (negated : Bool) (cls : CharClass) : CharClass := if negated then cls.compl else cls

/-- Case variants, then the complement for a negated class. -/
def finished (flags : Flags) (span : Span) (negated : Bool) (cls : CharClass) :
    Except Mistake CharClass :=
  flags.allowed span (signed negated (flags.closed cls))

end Flags

/-- The characters of a shorthand. -/
def Shorthand.class (unicode : Bool) : Shorthand → CharClass
  | digit => if unicode then digitClass else ⟨.bytes, [⟨0x30, 0x39⟩]⟩
  | space => if unicode then spaceClass else ⟨.bytes, [⟨9, 13⟩, ⟨0x20, 0x20⟩]⟩
  | word => if unicode then wordClass else ⟨.bytes, asciiWord⟩

/-- The class of a shorthand. The classes of shorthands are closed under case. -/
def shorthandClass (flags : Flags) (span : Span) (negated : Bool) (kind : Shorthand) :
    Except Mistake CharClass :=
  flags.allowed span (Flags.signed negated (kind.class flags.unicode))

/-- What is wrong when there is no class of a property. -/
def QueryFault.fault : QueryFault → Fault
  | unknownProperty => .propertyUnknown
  | unknownValue => .propertyValueUnknown

/-- The class of a property; there are none without Unicode. -/
def propertyClass (flags : Flags) (span : Span) (negated : Bool) (query : Query) :
    Except Mistake CharClass :=
  if !flags.unicode then mistaken .noUnicode span
  else
    match query.class with
    | .ok cls => flags.finished span negated cls
    | .error fault => mistaken fault.fault span

/-- The code point of a literal. Without Unicode a byte beyond ASCII is no character. -/
def literalCode (flags : Flags) (l : Literal) : Except Mistake Nat :=
  if !flags.unicode && l.isByte && decide (127 < l.char.toNat) then mistaken .notUtf8 l.span
  else .ok l.char.toNat

/-- The code point of a literal in a set. Without Unicode it must be ASCII. -/
def setCode (flags : Flags) (l : Literal) : Except Mistake Nat := do
  let code ← literalCode flags l
  if !flags.unicode && decide (127 < code) then mistaken .noUnicode l.span else .ok code

/-- Two classes joined by an operation. -/
def SetOperation.apply (kind : SetOperation) (left right : CharClass) : CharClass :=
  match kind with
  | intersection => left.inter right
  | difference => left.diff right
  | symmetricDifference => left.symmDiff right

mutual

/-- The class that the contents of brackets mean. -/
def setClass (flags : Flags) : SetTree → Except Mistake CharClass
  | .nothing _ => .ok (.none flags.alphabet)
  | .literal l => (setCode flags l).map fun c => ⟨flags.alphabet, [.single c]⟩
  | .range low high => do
    let a ← setCode flags low
    let b ← setCode flags high
    .ok ⟨flags.alphabet, [⟨a, b⟩]⟩
  | .ascii span negated ranges => flags.finished span negated ⟨flags.alphabet, ranges⟩
  | .property span negated query => propertyClass flags span negated query
  | .shorthand span negated kind => shorthandClass flags span negated kind
  | .bracket span negated inner => do
    let cls ← setClass flags inner
    flags.finished span negated cls
  | .all _ items => do
    let classes ← setClasses flags items
    .ok (.ofRanges flags.alphabet (classes.flatMap CharClass.ranges))
  | .operation kind left right => do
    let a ← setClass flags left
    let b ← setClass flags right
    .ok (kind.apply (flags.closed a) (flags.closed b))

/-- The classes of some items. -/
def setClasses (flags : Flags) : List SetTree → Except Mistake (List CharClass)
  | [] => .ok []
  | item :: rest => do
    let a ← setClass flags item
    let others ← setClasses flags rest
    .ok (a :: others)

end

/-- The expression of a literal. Beyond ASCII only Unicode knows of case. -/
def literalMeaning (flags : Flags) (l : Literal) : Except Mistake Expr := do
  let code ← literalCode flags l
  if flags.unicode || decide (code < 128) then
    .ok (.ofClass (flags.closed ⟨flags.alphabet, [.single code]⟩))
  else .ok (.text [l.char])

/-- The class of a dot. -/
def dotClass (flags : Flags) : CharClass :=
  if flags.dotAll then .all .characters
  else if flags.crlf then CharClass.compl ⟨.characters, [.single 10, .single 13]⟩
  else CharClass.compl ⟨.characters, [.single 10]⟩

/-- The place that an anchor asks for. -/
def anchorPlace (flags : Flags) : Anchor → Place
  | .lineStart =>
    if flags.multiLine then (if flags.crlf then .crlfStart else .lineStart) else .textStart
  | .lineEnd => if flags.multiLine then (if flags.crlf then .crlfEnd else .lineEnd) else .textEnd
  | .textStart => .textStart
  | .textEnd => .textEnd
  | .wordBoundary => .wordBoundary flags.unicode
  | .notWordBoundary => .notWordBoundary flags.unicode
  | .wordStart => .wordStart flags.unicode
  | .wordEnd => .wordEnd flags.unicode
  | .wordStartHalf => .wordStartHalf flags.unicode
  | .wordEndHalf => .wordEndHalf flags.unicode

mutual

/-- The expression that a tree means, and the flags in force after it. -/
def meaning (flags : Flags) : Tree → Except Mistake (Expr × Flags)
  | .empty _ => .ok (.empty, flags)
  | .flags _ change => .ok (.empty, flags.apply change)
  | .literal l => (literalMeaning flags l).map (·, flags)
  | .dot span =>
    if flags.unicode then .ok (.oneOf (dotClass flags), flags) else mistaken .notUtf8 span
  | .anchor _ a => .ok (.place (anchorPlace flags a), flags)
  | .property span negated query =>
    (propertyClass flags span negated query).map fun cls => (.ofClass cls, flags)
  | .shorthand span negated kind =>
    (shorthandClass flags span negated kind).map fun cls => (.ofClass cls, flags)
  | .bracket span negated inner => do
    let cls ← setClass flags inner
    let cls ← flags.finished span negated cls
    .ok (.ofClass cls, flags)
  | .repetition _ t least most greedy => do
    let (e, flags) ← meaning flags t
    .ok (e.repeated least most (greedy != flags.swapGreed), flags)
  | .capture _ number t => do
    let (e, _) ← meaning flags t
    .ok (.capture number e, flags)
  | .group _ change t => do
    let (e, _) ← meaning (flags.apply change) t
    .ok (e, flags)
  | .concat _ ts => do
    let (es, flags) ← meanings flags ts
    .ok (.ofRow es, flags)
  | .branches _ ts => do
    let (es, flags) ← meanings flags ts
    .ok (.ofChoice es, flags)

/-- The expressions of some trees, each under the flags that are in force after the one before. -/
def meanings (flags : Flags) : List Tree → Except Mistake (List Expr × Flags)
  | [] => .ok ([], flags)
  | t :: ts => do
    let (e, flags) ← meaning flags t
    let (es, flags) ← meanings flags ts
    .ok (e :: es, flags)

end

end LogLens.Pattern
