import LogLens.Command.Usage
import LogLens.Diagnostics
import LogLens.Settings.Basic
import LogLens.Surroundings.Basic
/-!
# The program

A run reads its command line, opens the file for its diagnostics, reads the settings file, resolves
the settings, builds the filter and opens the input, in this order; the first of these steps that
fails ends the run before anything is written to the output. Then the input is streamed to the end.

The steps note entries for the diagnostics. `Journal` is the type of such a step: what it noted, and
what it came to. What a step comes to never depends on the entries of the steps before it, but for
one case: a file that is read may be the one to which the diagnostics are added. One entry is left
out: the one that spells out the filter, as it is laid out in memory, once it is built.

## Main results

* `result_bind` — what two steps after each other come to does not depend on what they note.
-/

namespace LogLens

/-- Why a run fails. -/
inductive RunError where
  | logFile (path : String) (failure : IoFailure)
  | configFile (path : String) (failure : IoFailure)
  | configText (path : String)
  | timezone (name : String)
  | filter (e : FilterError)
  | inputFile (path : String) (failure : IoFailure)
  | stream (failure : IoFailure)
  deriving DecidableEq, Repr

/-- The wording of a failure. The failure of the system that keeps a settings file from being read
is told by the settings and once more as their cause. -/
def RunError.message : RunError → String
  | logFile path failure => "Failed to open log file '" ++ path ++ "': " ++ failure.message
  | configFile path failure =>
    "Failed to load config: Failed to read config file '" ++ path ++ "': " ++ failure.message ++
      ": " ++ failure.message
  | configText path =>
    "Failed to load config: Failed to parse config file '" ++ path ++ "': TOML parse error"
  | timezone name => DisplayZone.unknownMessage name
  | filter e => "Failed to create filter: " ++ e.message
  | inputFile path failure => "Failed to open file '" ++ path ++ "': " ++ failure.message
  | stream failure => "Failed to read from input: " ++ failure.message

/-- A step of a run: the entries that it notes, and what it comes to. -/
structure Journal (α : Type) where
  entries : List Diagnostics.Entry
  result : Except RunError α

namespace Journal

instance : Monad Journal where
  pure a := ⟨[], .ok a⟩
  bind j f :=
    match j.result with
    | .error e => ⟨j.entries, .error e⟩
    | .ok a => ⟨j.entries ++ (f a).entries, (f a).result⟩

/-- Notes something. -/
def note (severity : Severity) (source text : String) : Journal Unit :=
  ⟨[⟨severity, source, text⟩], .ok ()⟩

/-- A step that notes nothing. -/
def silent {ε α : Type} (error : ε → RunError) (result : Except ε α) : Journal α :=
  ⟨[], result.mapError error⟩

/-- What two steps after each other come to does not depend on what they note. -/
theorem result_bind {α β : Type} (j : Journal α) (f : α → Journal β) :
    (j >>= f).result = j.result >>= fun a => (f a).result := by
  obtain ⟨entries, result⟩ := j
  cases result <;> rfl

end Journal

namespace Program

/-! ## Steps -/

/-- The variable with the rules for diagnostics. -/
def diagnosticsVariable : String := "LV_LOG"

/-- The path of something in a directory. -/
def pathIn (directory entry : String) : String :=
  if directory.endsWith "/" then directory ++ entry else directory ++ "/" ++ entry

/-- The default settings file in the directory for settings of a user. -/
def configPathIn (directory : String) : String := pathIn (pathIn directory name) "config.toml"

/-- The default settings file: in the directory that a variable names by an absolute path, or else
in the usual one below the home directory. That is the one that a variable names, or else the one
that the system has for the user. -/
def configPath? (env : String → Option String) (userHome : Option String) : Option String :=
  let directory := (env "XDG_CONFIG_HOME").filter fun d => d.startsWith "/"
  let home := ((env "HOME").filter fun d => d != "").or (userHome.filter fun d => d != "")
  (directory.or (home.map fun d => pathIn d ".config")).map configPathIn

/-- Which entries are told, with the warnings about their choice. -/
def choice (c : CommandLine) (s : Surroundings) : Diagnostics.Choice × List String :=
  let base : Option Severity :=
    if CommandLine.isOn c.debug then some .debug
    else if CommandLine.isOn c.verbose || c.log.isSome then some .info
    else none
  match s.env diagnosticsVariable with
  | none => (⟨[⟨none, base⟩], none⟩, [])
  | some text => Diagnostics.Choice.read base text

/-- Opens the file for the diagnostics. -/
def openLog (c : CommandLine) (s : Surroundings) : Journal Unit :=
  match c.log with
  | none => pure ()
  | some path =>
    match s.extendFailure? path with
    | none => pure ()
    | some failure => .silent id (.error (.logFile path failure))

/-- Notes that the run begins. -/
def begin (c : CommandLine) : Journal Unit := do
  if CommandLine.isOn c.debug then
    .note .info name "Debug was turned on by the --debug flag"
  .note .info name (String.ofList (List.replicate 80 '-'))
  .note .info name ("Starting " ++ name ++ " v" ++ version)

/-- Lines, each with a line break after it. -/
def linesText : List String → String
  | [] => ""
  | line :: rest => line ++ "\n" ++ linesText rest

/-- What is added to the file for the diagnostics by some entries. -/
def additionOf (c : CommandLine) (s : Surroundings) (entries : List Diagnostics.Entry) :
    Option Addition :=
  c.log.map fun path =>
    let shown := entries.filter (choice c s).1.shows
    ⟨path, Text.encode (linesText (shown.map fun e => e.line))⟩

/-- Reads a settings file. -/
def readConfig (s : Surroundings) (added : Option Addition) (path : String) : Journal Config := do
  let text ← .silent (.configFile path) (s.readText added path)
  match Config.read? text with
  | none => .silent id (.error (.configText path))
  | some config =>
    .note .info (name ++ "::config") ("Config File: " ++ path)
    pure config

/-- Reads the settings file that is named, or else the default one when it is there. -/
def loadConfig (c : CommandLine) (s : Surroundings) (added : Option Addition) : Journal Config :=
  match c.config, s.defaultConfig with
  | some path, _ => readConfig s added path
  | none, none => pure {}
  | none, some path =>
    if s.isFile added path then readConfig s added path
    else do
      .note .info (name ++ "::config") ("Config file not found: " ++ path)
      pure {}

/-- Resolves the settings. -/
def resolve (c : CommandLine) (s : Surroundings) (config : Config) : Journal Settings := do
  let settings ← .silent .timezone
    (Settings.resolve s.clocks c config s.inputIsTerminal s.outputIsTerminal)
  .note .info name
    ("Output mode: " ++ settings.view.mode.name ++ ", displaying time at location: " ++
      settings.view.zone.name)
  pure settings

/-- The filters of an optional text, which is noted after some words. -/
def filterOf (words : String) (make : String → Except FilterError Filter) (text : Option String) :
    Journal (List Filter) := do
  match Filter.given? text with
  | none => pure ()
  | some text => .note .info (name ++ "::filter") (words ++ text)
  .silent .filter (Filter.optional make text)

/-- Builds the filter. -/
def buildFilter (settings : Settings) : Journal Filter := do
  let first ← filterOf "Adding log level filter at " Filter.ofLevelSet settings.levels
  let second ← filterOf "Adding condition filter: " Filter.ofCondition settings.condition
  pure (Filter.combined (first ++ second))

/-- Opens the input. -/
def openInput (c : CommandLine) (s : Surroundings) (added : Option Addition) :
    Journal Stream.Source :=
  match c.inputFile with
  | none => pure s.input
  | some path => .silent (.inputFile path) (s.openFile added path)

/-- What is streamed: an input, through a filter and a view. -/
structure Job where
  filter : Filter
  view : View
  source : Stream.Source

/-- The steps before the input is opened. -/
def settle (c : CommandLine) (s : Surroundings) : Journal (Filter × View) := do
  openLog c s
  begin c
  let config ← loadConfig c s (additionOf c s (begin c).entries)
  let settings ← resolve c s config
  let filter ← buildFilter settings
  pure (filter, settings.view)

/-- All steps before the stream. -/
def prepare (c : CommandLine) (s : Surroundings) : Journal Job :=
  let settled := settle c s
  do
    let (filter, view) ← settled
    let source ← openInput c s (additionOf c s settled.entries)
    pure ⟨filter, view, source⟩

/-! ## The stream -/

/-- What is noted about a line. -/
def lineEntries : Stream.LineResult → List Diagnostics.Entry
  | .passed reason => [⟨.debug, name, "Failed to parse JSON: " ++ reason.message⟩]
  | .hidden errors => errors.map fun e => ⟨.warn, name, e.message⟩
  | .shown _ errors => errors.map fun e => ⟨.warn, name, e.message⟩

/-- What is noted about counts. -/
def countsText (stats : Stream.Stats) : String :=
  "Processed " ++ toString stats.records ++ " records (" ++ toString stats.shown ++ " shown, " ++
    toString stats.passed ++ " passed through, " ++ toString stats.fieldErrors ++ " field errors)"

/-- Why a stream fails. -/
def failure? (report : Stream.Report) : Option RunError :=
  match report.ending with
  | .failed failure => some (.stream failure)
  | _ => none

/-- What is noted about a stream. -/
def streamEntries (report : Stream.Report) : List Diagnostics.Entry :=
  report.results.flatMap lineEntries ++
    match report.ending with
    | .completed => [⟨.info, name, countsText report.stats⟩]
    | .closed => [⟨.info, name, "Output closed, stopping"⟩, ⟨.info, name, countsText report.stats⟩]
    | .failed _ => []

/-! ## Runs -/

/-- What a run leaves. -/
structure Outcome where
  code : Nat
  output : List UInt8 := []
  warnings : List String := []
  /-- The entries that are told. -/
  entries : List Diagnostics.Entry := []
  /-- The file that the entries are added to, in place of the standard error. -/
  log : Option String := none
  /-- The last line on the standard error. -/
  complaint : Option String := none
  deriving DecidableEq, Repr

/-- The entries as they are written. -/
def Outcome.entriesText (o : Outcome) : String := linesText (o.entries.map fun e => e.line)

/-- What is written to the standard error. -/
def Outcome.errorText (o : Outcome) : String :=
  linesText (o.warnings.map Diagnostics.warningLine) ++
    (if o.log.isSome then "" else o.entriesText) ++ linesText o.complaint.toList

/-- The line that tells why a run fails. -/
def complaintLine (e : RunError) : String := "Error: " ++ e.message

/-- The file that entries can be added to. -/
def logOf (c : CommandLine) (s : Surroundings) : Option String :=
  c.log.filter fun path => (s.extendFailure? path).isNone

/-- What is left of a run whose command line is read. -/
def outcome (c : CommandLine) (s : Surroundings) : Outcome :=
  let (choice, warnings) := choice c s
  let journal := prepare c s
  match journal.result with
  | .error e =>
    { code := 1
      warnings := warnings
      entries := journal.entries.filter choice.shows
      log := logOf c s
      complaint := some (complaintLine e) }
  | .ok job =>
    let report := Stream.run job.filter job.view job.source {}
    let failure := failure? report
    { code := if failure.isSome then 1 else 0
      output := report.output
      warnings := warnings
      entries := (journal.entries ++ streamEntries report).filter choice.shows
      log := logOf c s
      complaint := failure.map complaintLine }

/-- A run. A completion script is none of its work: asked for one, it ends at once. -/
def run (args : List String) (s : Surroundings) : Outcome :=
  match CommandLine.read args s.env with
  | .error .help => { code := 0, output := Text.encode (linesText helpLines) }
  | .error .version => { code := 0, output := Text.encode (linesText [versionLine]) }
  | .error e => { code := 2, complaint := some ("error: " ++ e.message) }
  | .ok c => if c.completion.isSome then { code := 0 } else outcome c s

end Program

end LogLens
