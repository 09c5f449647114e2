import LogLens.Pattern.Basic
import LogLens.Text.Blank
import LogLens.Text.Cut
import LogLens.Text.Utf8
/-!
# Diagnostics

What a run says about itself is a list of entries. An entry has a severity, a source within the
program and a text. Rules decide which entries are told: a rule sets the least severe entries that
are told, of all sources or of those that begin with a name. The rule with the longest fitting name
decides, of several such rules the last; where no rule fits nothing is told. A pattern may be set
too, which the text of an entry then has to match.

Rules come from a text such as `warn,net=debug/timeout`: rules with commas between them, each a
severity, a name or both, and after a slash the pattern. What is wrong in it is left out, with a
warning that says so.

A written entry begins with its severity and its source. The time at which it was noted, which would
stand before them, is left out: what a run leaves is a function of its surroundings, and no moment of
its work is one of them.
-/

namespace LogLens

/-- How severe an entry is. -/
inductive Severity where
  | error
  | warn
  | info
  | debug
  | trace
  deriving DecidableEq, Repr

namespace Severity

/-- All severities, from the most severe one. -/
def all : List Severity := [error, warn, info, debug, trace]

/-- The name of a severity. -/
def name : Severity → String
  | error => "ERROR"
  | warn => "WARN"
  | info => "INFO"
  | debug => "DEBUG"
  | trace => "TRACE"

/-- The name of a severity, as wide as the longest one. -/
def label (s : Severity) : String :=
  s.name ++ String.ofList (List.replicate (5 - s.name.length) ' ')

/-- The place of a severity, from the most severe one. -/
def rank : Severity → Nat
  | error => 1
  | warn => 2
  | info => 3
  | debug => 4
  | trace => 5

/-- The severity of a name in any letter case. -/
def ofName? (text : List Char) : Option Severity :=
  all.find? fun w => w.name.toList == text.map Char.toUpper

end Severity

namespace Diagnostics

/-- Something that a run says about itself. -/
structure Entry where
  severity : Severity
  source : String
  text : String
  deriving DecidableEq, Repr

/-- The text with every further line set in by four blanks. -/
def indented : List Char → List Char
  | [] => []
  | c :: cs =>
    if c = '\n' then '\n' :: ' ' :: ' ' :: ' ' :: ' ' :: indented cs else c :: indented cs

/-- An entry as it is written, without its time. -/
def Entry.line (e : Entry) : String :=
  "[" ++ e.severity.label ++ " " ++ e.source ++ "] " ++ String.ofList (indented e.text.toList)

/-- The least severe entries that are told, of the sources that begin with a name. -/
structure Rule where
  name : Option String
  /-- `none` when no entry is told. -/
  limit : Option Severity
  deriving DecidableEq, Repr

namespace Rule

/-- Whether a rule is one for a source. -/
def fits (rule : Rule) (source : String) : Bool :=
  match rule.name with
  | none => true
  | some name => (Text.dropStart? name.toList source.toList).isSome

/-- How closely a rule describes its sources: by the bytes of its name. -/
def closeness (rule : Rule) : Nat :=
  match rule.name with
  | none => 0
  | some name => Text.byteCount name.toList

/-- Whether a rule lets an entry be told. -/
def allows (rule : Rule) (severity : Severity) : Bool :=
  match rule.limit with
  | none => false
  | some limit => decide (severity.rank ≤ limit.rank)

end Rule

/-- The closest of the rules for a source, of equally close ones the last. -/
def closest? (source : String) : List Rule → Option Rule
  | [] => none
  | rule :: rest =>
    match closest? source rest, rule.fits source with
    | some other, true => if rule.closeness ≤ other.closeness then some other else some rule
    | some other, false => some other
    | none, true => some rule
    | none, false => none

/-- Adds a rule, in place of one with the same name. -/
def addRule (rule : Rule) : List Rule → List Rule
  | [] => [rule]
  | r :: rest => if r.name = rule.name then rule :: rest else r :: addRule rule rest

/-- Which entries are told. -/
structure Choice where
  rules : List Rule
  pattern : Option Pattern := none

/-- Whether an entry is told. -/
def Choice.shows (choice : Choice) (e : Entry) : Bool :=
  (match closest? e.source choice.rules with
    | some rule => rule.allows e.severity
    | none => false) &&
    match choice.pattern with
    | some p => p.matchesIn e.text
    | none => true

/-- The limit of a name: a severity, or the word that turns everything off. -/
def limit? (text : List Char) : Option (Option Severity) :=
  if text.map Char.toUpper = ['O', 'F', 'F'] then some none else (Severity.ofName? text).map some

/-- The warning about a part that cannot be read. -/
def badPart (part : List Char) : String := "invalid logging spec '" ++ String.ofList part ++ "'"

/-- Reads one rule. -/
def readRule (part : List Char) : Except String Rule :=
  match Text.pieces '=' part with
  | [word] =>
    match limit? word with
    | some limit => .ok ⟨none, limit⟩
    | none => .ok ⟨some (String.ofList word), some .trace⟩
  | [name, word] =>
    let word := Text.trim word
    if word.isEmpty then .ok ⟨some (String.ofList name), some .trace⟩
    else
      match limit? word with
      | some limit => .ok ⟨some (String.ofList name), limit⟩
      | none => .error (badPart word)
  | _ => .error (badPart part)

/-- Reads rules, and gives the warnings. -/
def readRules : List (List Char) → List Rule × List String
  | [] => ([], [])
  | part :: rest =>
    let (rules, warnings) := readRules rest
    let part := Text.trim part
    if part.isEmpty then (rules, warnings)
    else
      match readRule part with
      | .ok rule => (rule :: rules, warnings)
      | .error warning => (rules, warning :: warnings)

/-- Reads a pattern, and gives the warnings. -/
def readPattern (text : List Char) : Option Pattern × List String :=
  let source := String.ofList text
  match Pattern.compile source with
  | .ok p => (some p, [])
  | .error e => (none, ["invalid regex filter - " ++ e.message source])

/-- Reads rules and a pattern on top of a rule for everything, and gives the warnings. -/
def Choice.read (base : Option Severity) (text : String) : Choice × List String :=
  match Text.pieces '/' text.toList with
  | [rules] =>
    let (rules, warnings) := readRules (Text.pieces ',' rules)
    (⟨rules.foldl (fun rs r => addRule r rs) [⟨none, base⟩], none⟩, warnings)
  | [rules, pattern] =>
    let (rules, warnings) := readRules (Text.pieces ',' rules)
    let (pattern, more) := readPattern pattern
    (⟨rules.foldl (fun rs r => addRule r rs) [⟨none, base⟩], pattern⟩, warnings ++ more)
  | _ => (⟨[⟨none, base⟩], none⟩, [badPart text.toList ++ " (too many '/'s)"])

/-- A warning as it is written. -/
def warningLine (warning : String) : String := "warning: " ++ warning ++ ", ignoring it"

end Diagnostics

end LogLens
