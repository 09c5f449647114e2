import LogLens.Layout.Mode
import LogLens.Text.Cut
/-!
# The command line

A command line is a list of words. A word that begins with two hyphens is a long name, perhaps with
a value after an equals sign; one that begins with a single hyphen is a row of letters, of which the
last may have its value attached; two hyphens alone end the options. Everything else is the value of
an option that still waits for one, or else the file. A single hyphen is such a word too.

Nothing may be given twice. The value of an option is judged only when the next option or the end of
the line comes, so that a later unknown word is reported rather than an earlier bad value; a word
that is given twice is reported rather than its bad value.

Some options can also be given by a variable of the environment; the command line goes before it.
-/

namespace LogLens

/-- When colors are used. -/
inductive ColorChoice where
  | auto
  | always
  | never
  deriving DecidableEq, Repr

/-- The name of a choice. -/
def ColorChoice.name : ColorChoice → String
  | auto => "auto"
  | always => "always"
  | never => "never"

/-- The shells for which a completion script can be asked for. -/
inductive Shell where
  | bash
  | elvish
  | fish
  | powershell
  | zsh
  deriving DecidableEq, Repr

/-- The name of a shell. -/
def Shell.name : Shell → String
  | bash => "bash"
  | elvish => "elvish"
  | fish => "fish"
  | powershell => "powershell"
  | zsh => "zsh"

/-- What a command line says. -/
structure CommandLine where
  file : Option String := none
  output : Option Mode := none
  levels : Option String := none
  condition : Option String := none
  localTime : Option Bool := none
  timezone : Option String := none
  color : Option ColorChoice := none
  noColor : Option Bool := none
  noPager : Option Bool := none
  config : Option String := none
  log : Option String := none
  debug : Option Bool := none
  verbose : Option Bool := none
  completion : Option Shell := none
  deriving DecidableEq, Repr

/-- Why a command line is not carried out: a request for help or the version, or a mistake. -/
inductive UsageError where
  | help
  | version
  | unknownArgument
  | invalidValue
  | conflict
  | tooManyValues
  deriving DecidableEq, Repr

namespace CommandLine

/-- What takes a value. -/
inductive Slot where
  | file
  | output
  | levels
  | condition
  | timezone
  | color
  | config
  | log
  | completion
  deriving DecidableEq, Repr

/-- What takes none. -/
inductive Switch where
  | localTime
  | noColor
  | noPager
  | debug
  | verbose
  | help
  | version
  deriving DecidableEq, Repr

/-- What a name stands for. -/
inductive Name where
  | slot (s : Slot)
  | switch (s : Switch)
  deriving DecidableEq, Repr

/-- The meaning of a long name. -/
def long? : (name : String) → Option Name
  | "output" => some (.slot .output)
  | "level" => some (.slot .levels)
  | "condition" => some (.slot .condition)
  | "filter" => some (.slot .condition)
  | "local" => some (.switch .localTime)
  | "time" => some (.slot .timezone)
  | "color" => some (.slot .color)
  | "no-color" => some (.switch .noColor)
  | "no-pager" => some (.switch .noPager)
  | "config" => some (.slot .config)
  | "log" => some (.slot .log)
  | "debug" => some (.switch .debug)
  | "verbose" => some (.switch .verbose)
  | "completion" => some (.slot .completion)
  | "help" => some (.switch .help)
  | "version" => some (.switch .version)
  | _ => none

/-- The meaning of a letter. -/
def short? : (letter : Char) → Option Name
  | 'o' => some (.slot .output)
  | 'l' => some (.slot .levels)
  | 'c' => some (.slot .condition)
  | 'f' => some (.slot .condition)
  | 'L' => some (.switch .localTime)
  | 'v' => some (.switch .verbose)
  | 'h' => some (.switch .help)
  | 'V' => some (.switch .version)
  | _ => none

/-- Puts a value where there is none yet; `read?` judges it. -/
def once {α : Type} (present : Bool) (read : Option α) (set : α → CommandLine) :
    Except UsageError CommandLine :=
  if present then .error .conflict
  else
    match read with
    | some a => .ok (set a)
    | none => .error .invalidValue

/-- A path is not empty. -/
def path? (value : String) : Option String := if value = "" then none else some value

/-- The choice of a name. -/
def colorChoice? (value : String) : Option ColorChoice :=
  [ColorChoice.auto, .always, .never].find? fun c => c.name == value

/-- The shell of a name. -/
def shell? (value : String) : Option Shell :=
  [Shell.bash, .elvish, .fish, .powershell, .zsh].find? fun s => s.name == value

/-- Takes a value into account. -/
def store (c : CommandLine) (slot : Slot) (value : String) : Except UsageError CommandLine :=
  match slot with
  | .file => once c.file.isSome (path? value) fun v => { c with file := some v }
  | .output => once c.output.isSome (Mode.ofName? value) fun v => { c with output := some v }
  | .levels => once c.levels.isSome (some value) fun v => { c with levels := some v }
  | .condition => once c.condition.isSome (some value) fun v => { c with condition := some v }
  | .timezone => once c.timezone.isSome (some value) fun v => { c with timezone := some v }
  | .color => once c.color.isSome (colorChoice? value) fun v => { c with color := some v }
  | .config => once c.config.isSome (path? value) fun v => { c with config := some v }
  | .log => once c.log.isSome (path? value) fun v => { c with log := some v }
  | .completion => once c.completion.isSome (shell? value) fun v => { c with completion := some v }

/-- Takes a switch into account. -/
def turnOn (c : CommandLine) : Switch → Except UsageError CommandLine
  | .localTime => once c.localTime.isSome (some true) fun v => { c with localTime := some v }
  | .noColor => once c.noColor.isSome (some true) fun v => { c with noColor := some v }
  | .noPager => once c.noPager.isSome (some true) fun v => { c with noPager := some v }
  | .debug => once c.debug.isSome (some true) fun v => { c with debug := some v }
  | .verbose => once c.verbose.isSome (some true) fun v => { c with verbose := some v }
  | .help => .error .help
  | .version => .error .version

/-- How far a command line is read. -/
structure Reading where
  found : CommandLine
  /-- The last option or file, with its value unless that is still to come. -/
  pending : Option (Slot × Option String)
  hasFile : Bool

namespace Reading

/-- Judges what is pending. -/
def settle (r : Reading) : Except UsageError CommandLine :=
  match r.pending with
  | none => .ok r.found
  | some (_, none) => .error .invalidValue
  | some (slot, some value) => store r.found slot value

/-- Whether an option still waits for its value. -/
def awaits (r : Reading) : Option Slot :=
  match r.pending with
  | some (slot, none) => some slot
  | _ => none

/-- Begins an option whose value is to come. -/
def await (r : Reading) (slot : Slot) : Except UsageError Reading := do
  let found ← r.settle
  .ok { r with found := found, pending := some (slot, none) }

/-- An option with its value attached. -/
def attached (r : Reading) (slot : Slot) (value : String) : Except UsageError Reading := do
  let found ← r.settle
  let found ← store found slot value
  .ok { r with found := found, pending := none }

/-- A switch. -/
def switch (r : Reading) (s : Switch) : Except UsageError Reading := do
  let found ← r.settle
  let found ← turnOn found s
  .ok { r with found := found, pending := none }

/-- The file. A second one is unknown. -/
def positional (r : Reading) (word : String) : Except UsageError Reading :=
  if r.hasFile then .error .unknownArgument
  else do
    let found ← r.settle
    .ok { found := found, pending := some (.file, some word), hasFile := true }

/-- A long name, with the value after its equals sign. -/
def long (r : Reading) (text : List Char) : Except UsageError Reading :=
  let (name, value) :=
    match Text.cutAt? ['='] text with
    | some (name, value) => (name, some (String.ofList value))
    | none => (text, none)
  match long? (String.ofList name), value with
  | none, _ => .error .unknownArgument
  | some (.slot slot), some value => r.attached slot value
  | some (.slot slot), none => r.await slot
  | some (.switch _), some _ => .error .tooManyValues
  | some (.switch s), none => r.switch s

/-- A row of letters. -/
def letters (r : Reading) : List Char → Except UsageError Reading
  | [] => .ok r
  | c :: cs =>
    match short? c, cs with
    | none, _ => .error .unknownArgument
    | some (.switch s), _ => do
      let r ← r.switch s
      letters r cs
    | some (.slot slot), [] => r.await slot
    | some (.slot slot), '=' :: value => r.attached slot (String.ofList value)
    | some (.slot slot), value => r.attached slot (String.ofList value)

/-- A word that is no option: a value that is waited for, or the file. -/
def plain (r : Reading) (word : String) : Except UsageError Reading :=
  match r.awaits with
  | some slot => .ok { r with pending := some (slot, some word) }
  | none => r.positional word

/-- A word before the end of the options. -/
def word (r : Reading) (word : String) : Except UsageError Reading :=
  match word.toList with
  | '-' :: '-' :: name => r.long name
  | '-' :: c :: cs => r.letters (c :: cs)
  | _ => r.plain word

/-- All words; after two hyphens alone every word is a file. -/
def words (r : Reading) (optionsEnded : Bool) : List String → Except UsageError Reading
  | [] => .ok r
  | w :: ws =>
    if optionsEnded then do
      let r ← r.positional w
      words r true ws
    else if w = "--" then words r true ws
    else do
      let r ← r.word w
      words r false ws

end Reading

/-- Stores the value of a variable unless the command line has one. -/
def fromVariable (c : CommandLine) (present : Bool) (slot : Slot) (value : Option String) :
    Except UsageError CommandLine :=
  match value with
  | none => .ok c
  | some v => if present then .ok c else store c slot v

/-- The switch for local time by its variable: one of two words. -/
def localFromVariable (c : CommandLine) (value : Option String) : Except UsageError CommandLine :=
  match c.localTime, value with
  | none, some "true" => .ok { c with localTime := some true }
  | none, some "false" => .ok { c with localTime := some false }
  | none, some _ => .error .invalidValue
  | _, _ => .ok c

/-- The variables that are looked at. -/
def variableNames : List String :=
  ["LV_OUTPUT", "LV_LEVEL", "LV_FILTER", "LV_LOCAL", "LV_TIMEZONE", "LV_CONFIG"]

/-- Adds what the variables say. -/
def withVariables (c : CommandLine) (env : String → Option String) :
    Except UsageError CommandLine := do
  let c ← fromVariable c c.output.isSome .output (env "LV_OUTPUT")
  let c ← fromVariable c c.levels.isSome .levels (env "LV_LEVEL")
  let c ← fromVariable c c.condition.isSome .condition (env "LV_FILTER")
  let c ← localFromVariable c (env "LV_LOCAL")
  let c ← fromVariable c c.timezone.isSome .timezone (env "LV_TIMEZONE")
  fromVariable c c.config.isSome .config (env "LV_CONFIG")

/-- Reads a command line and the variables. The two options on colors exclude each other. -/
def read (args : List String) (env : String → Option String) :
    Except UsageError CommandLine := do
  let r ← Reading.words ⟨{}, none, false⟩ false args
  let c ← r.settle
  let c ← c.withVariables env
  if c.color.isSome ∧ c.noColor.isSome then .error .conflict else .ok c

/-- Whether a switch is on. -/
def isOn (switch : Option Bool) : Bool := switch.getD false

/-- When colors are used, as far as the command line says. -/
def colorChoice (c : CommandLine) : Option ColorChoice :=
  if isOn c.noColor then some .never else c.color

/-- The file that is read; a hyphen stands for the standard input. -/
def inputFile (c : CommandLine) : Option String := c.file.filter fun f => f != "-"

end CommandLine

end LogLens
