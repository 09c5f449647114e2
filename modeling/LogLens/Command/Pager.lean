import LogLens.Text.Blank
/-!
# The pager

The command of the pager comes from a variable, split into words as a shell splits them. One special
value asks for no pager. Without the variable the first known program that can be found is used.

Words are separated by blank characters. Inside of single quotes everything stands for itself;
inside of double quotes a backslash frees the characters that mean something there; outside of
quotes it frees any character. A text with a quote that is not closed is not split at all and is one
word.
-/

namespace LogLens.Pager

/-- The value that asks for no pager. -/
def noPager : String := "NOPAGER"

/-- The characters of a bare word. -/
def bareWord : List Char → List Char × List Char
  | [] => ([], [])
  | c :: cs =>
    if Text.isBlank c || c == '\\' || c == '\'' || c == '"' then ([], c :: cs)
    else
      let (ds, rest) := bareWord cs
      (c :: ds, rest)

/-- The characters up to a single quote, which is taken too. -/
def singleQuoted? : List Char → Option (List Char × List Char)
  | [] => none
  | c :: cs =>
    if c = '\'' then some ([], cs)
    else (singleQuoted? cs).map fun r => (c :: r.1, r.2)

/-- Whether a backslash in double quotes frees a character. -/
def isFreed (c : Char) : Bool := c == '$' || c == '\x60' || c == '"' || c == '\\'

/-- The characters up to a double quote, which is taken too. A backslash before another character
than those that it frees stays; before a line break it spoils the text. -/
def doubleQuoted? : List Char → Option (List Char × List Char)
  | [] => none
  | '"' :: cs => some ([], cs)
  | '\\' :: [] => none
  | '\\' :: c :: cs =>
    if c = '\n' then none
    else
      (doubleQuoted? cs).map fun r =>
        if isFreed c then (c :: r.1, r.2) else ('\\' :: c :: r.1, r.2)
  | c :: cs => (doubleQuoted? cs).map fun r => (c :: r.1, r.2)

/-- One piece of a word. -/
def piece? : List Char → Option (List Char × List Char)
  | [] => none
  | '\'' :: cs => singleQuoted? cs
  | '"' :: cs => doubleQuoted? cs
  | '\\' :: [] => some (['\\'], [])
  | '\\' :: c :: cs => if c = '\n' then some (['\\'], c :: cs) else some ([c], cs)
  | cs => some (bareWord cs)

/-- Splits a text into words; `word` is the one so far, if one has begun. Every round takes a
character. -/
def splitFrom : (fuel : Nat) → (word : List Char) → List Char → Option (List String)
  | 0, _, _ => none
  | fuel + 1, word, text =>
    match Text.trimStart text with
    | [] => some []
    | text => do
      let (chars, rest) ← piece? text
      match rest with
      | [] => some [String.ofList (word ++ chars)]
      | c :: rest' =>
        if Text.isBlank c then do
          let words ← splitFrom fuel [] rest'
          some (String.ofList (word ++ chars) :: words)
        else splitFrom fuel (word ++ chars) rest

/-- The words of a text; a text that cannot be split is one word. -/
def split (text : String) : List String :=
  (splitFrom (text.length + 1) [] text.toList).getD [text]

/-- A program and its arguments. -/
structure Command where
  program : String
  arguments : List String
  deriving DecidableEq, Repr

/-- The programs that are looked for, in order. -/
def fallbacks : List Command := [⟨"less", ["-R"]⟩, ⟨"more", []⟩]

/-- The first of some programs that can be found, under the path where it is. -/
def firstFound (find : String → Option String) : List Command → Option Command
  | [] => none
  | c :: rest =>
    match find c.program with
    | some path => some ⟨path, c.arguments⟩
    | none => firstFound find rest

/-- The command that a list of words is. -/
def ofWords? : List String → Option Command
  | [] => none
  | program :: arguments => some ⟨program, arguments⟩

/-- The pager, from the value of the variable and the programs that can be found. -/
def resolve (setting : Option String) (find : String → Option String) : Option Command :=
  match setting with
  | none => firstFound find fallbacks
  | some value =>
    if value = noPager then none
    else if Text.isBlankText value.toList then firstFound find fallbacks
    else ofWords? (split value)

end LogLens.Pager
