import LogLens.Program
import LogLens.Time.ZoneTable
/-!
# The command line program

The outer layer of the program: it finds out what a run can ask of its surroundings, carries out the
run, and writes what it leaves. A pager is never started, whatever the settings say. The clocks are
those of the table: of the zones that it lists by name, and on this machine of the zone that a
variable or the system names, or of Greenwich where the table does not have that one.
-/

namespace LogLens.Main

/-- The failure that an error of the system stands for. -/
def failureOf : IO.Error → IoFailure
  | .noFileOrDirectory .. => .notFound
  | .permissionDenied .. => .permissionDenied
  | .inappropriateType .. => .isDirectory
  | .resourceVanished .. => .brokenPipe
  | e => .other (toString e)

/-- The values of the variables that are set. -/
def readVariables : IO (String → Option String) := do
  let names :=
    CommandLine.variableNames ++ [Program.diagnosticsVariable, "XDG_CONFIG_HOME", "HOME", "TZ"]
  let values ← names.mapM fun name => do return (name, ← IO.getEnv name)
  return fun name => (values.find? fun v => v.1 == name).bind fun v => v.2

/-- Bytes that were read, or the failure that kept them from being read. -/
def sourceOf : Except IO.Error ByteArray → Stream.Source
  | .ok bytes => { bytes := bytes.toList }
  | .error e => { failure := some (failureOf e) }

/-- Opens and reads a file. -/
def readFile (path : String) : IO (Except IoFailure Stream.Source) := do
  match ← (IO.FS.Handle.mk path .read).toBaseIO with
  | .error e => return .error (failureOf e)
  | .ok handle => return .ok (sourceOf (← handle.readBinToEnd.toBaseIO))

/-- The bytes that are left of a stream, after those that are read already. -/
partial def readRest (input : IO.FS.Stream) (seen : ByteArray) : IO ByteArray := do
  let chunk ← input.read 65536
  if chunk.isEmpty then return seen else readRest input (seen ++ chunk)

/-- Reads the standard input. -/
def readInput : IO Stream.Source := do
  return sourceOf (← (readRest (← IO.getStdin) ByteArray.empty).toBaseIO)

/-- Why nothing can be added to the end of a file. -/
def tryExtend (path : String) : IO (Option IoFailure) := do
  match ← (IO.FS.Handle.mk path .append).toBaseIO with
  | .error e => return some (failureOf e)
  | .ok _ => return none

/-- Whether two paths are of the same file. -/
def isSameFile (a b : String) : IO Bool := do
  let first ← (IO.FS.realPath a).toBaseIO
  let second ← (IO.FS.realPath b).toBaseIO
  return match first, second with
    | .ok first, .ok second => first == second
    | _, _ => false

/-- Whether a path is one of a file that the system keeps from being opened. -/
def isDenied (path : String) (opened : Except IoFailure Stream.Source) : IO Bool := do
  match opened with
  | .error .permissionDenied => return (← (IO.FS.realPath path).toBaseIO).toOption.isSome
  | _ => return false

/-- A file that a run may open, and whether it is the file of the diagnostics. -/
structure Found where
  path : String
  opened : Except IoFailure Stream.Source
  isDenied : Bool
  isLog : Bool

/-- Whether what was found is a file. -/
def Found.isFile (f : Found) : Bool :=
  match f.opened with
  | .ok source => source.failure.isNone
  | .error _ => f.isDenied

/-- What opening a file gives after an addition to the file of the diagnostics. -/
def Found.after (f : Found) (added : Option Addition) : Except IoFailure Stream.Source :=
  f.opened.map fun source =>
    match added, f.isLog with
    | some a, true => { source with bytes := source.bytes ++ a.bytes }
    | _, _ => source

/-- The text of a file of the system, which is empty where it cannot be read. -/
def systemText (path : String) : IO String := do
  return ((← readFile path).toOption.bind fun source => Text.decode? source.bytes).getD ""

/-- The home directory of a user among the lines that the system keeps of its users: the sixth of the
fields between colons, in the line whose third one is the number of the user. -/
def homeAmong? (users : List String) (user : String) : Option String :=
  users.findSome? fun line =>
    match line.splitOn ":" with
    | [_, _, number, _, _, home, _] => if number == user then some home else none
    | _ => none

/-- The home directory that the system has for the user of this run. -/
def userHome : IO (Option String) := do
  let numbers := (← systemText "/proc/self/status").splitOn "\n" |>.findSome? fun line =>
    match line.splitOn "\t" with
    | "Uid:" :: user :: _ => some user
    | _ => none
  let users := (← systemText "/etc/passwd").splitOn "\n"
  return numbers.bind (homeAmong? users)

/-- The clock of this machine. -/
def machineClock (env : String → Option String) : IO Clock := do
  let linked ← (IO.FS.realPath "/etc/localtime").toBaseIO
  let system := linked.toOption.bind fun path => (path.toString.splitOn "/zoneinfo/")[1]?
  let given := (env "TZ").map fun name => (name.dropPrefix ":").toString
  let zone := (given.filter fun name => name != "").or system
  return ((zone.bind Zone.history?).getD (Zone.fixed 0)).clock

/-- Finds out what a run with some words can ask. Only the files that the words and the variables
name are looked at, the file of the diagnostics first, because it is made if it is not there. -/
def surroundings (args : List String) : IO Surroundings := do
  let env ← readVariables
  let defaultConfig := Program.configPath? env (← userHome)
  let clocks := Zone.clocks (← machineClock env)
  let c := (CommandLine.read args env).toOption.filter fun c => c.completion.isNone
  let log := c.bind CommandLine.log
  let extended ← log.toList.mapM fun path => do return (path, ← tryExtend path)
  let paths := (c.bind CommandLine.inputFile).toList ++ (c.bind CommandLine.config).toList ++
    defaultConfig.toList
  let found ← paths.mapM fun path => do
    let same ← log.toList.mapM fun log => isSameFile log path
    let opened ← readFile path
    return (⟨path, opened, ← isDenied path opened, same.any id⟩ : Found)
  let input ← if c.any fun c => c.inputFile.isNone then readInput else pure {}
  return {
    env := env
    openFile := fun added path =>
      match found.find? fun f => f.path == path with
      | some f => f.after added
      | none => .error .notFound
    isFile := fun _ path => found.any fun f => f.path == path && f.isFile
    extendFailure? := fun path => (extended.find? fun f => f.1 == path).bind fun f => f.2
    defaultConfig := defaultConfig
    clocks := clocks
    input := input
    inputIsTerminal := ← (← IO.getStdin).isTty
    outputIsTerminal := ← (← IO.getStdout).isTty }

/-- Writes what a run leaves. -/
def write (outcome : Program.Outcome) : IO Unit := do
  let output ← IO.getStdout
  output.write ⟨outcome.output.toArray⟩
  output.flush
  (← IO.getStderr).putStr outcome.errorText
  match outcome.log with
  | some path => (← IO.FS.Handle.mk path .append).putStr outcome.entriesText
  | none => pure ()

end LogLens.Main

/-- Runs the program. -/
def main (args : List String) : IO UInt32 := do
  let surroundings ← LogLens.Main.surroundings args
  let outcome := LogLens.Program.run args surroundings
  LogLens.Main.write outcome
  return outcome.code.toUInt32
