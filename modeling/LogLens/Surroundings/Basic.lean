import LogLens.Stream.Basic
/-!
# The surroundings of a run

Everything outside of the program that a run can find out: the variables of the environment, what
opening a file gives, which paths are those of files, the path of the settings file that is used by
default, the clocks of this machine and of the zones that have a name, and the standard input. A file
that can be opened may still fail when it is read, as a directory does, and a file that is there may
be one that cannot be opened. The standard output takes everything.

The only thing that a run changes in its surroundings is the file of its diagnostics, to the end of
which it adds. What it reads afterwards may be that same file, so opening a file is asked together
with what was added. A run is a function of the words of its command line and of its surroundings.
-/

namespace LogLens

/-- Bytes added to the end of a file, which is made if it is not there. -/
structure Addition where
  path : String
  bytes : List UInt8

/-- What a run can find out. -/
structure Surroundings where
  /-- The values of the variables that are set. -/
  env : String → Option String := fun _ => none
  /-- What opening a file for reading gives after an addition. -/
  openFile : Option Addition → String → Except IoFailure Stream.Source
  /-- Whether a path is one of a file after an addition; where nothing else is known, when it can be
  opened and read. -/
  isFile : Option Addition → String → Bool := fun added path =>
    match openFile added path with
    | .ok source => source.failure.isNone
    | .error _ => false
  /-- Why nothing can be added to the end of a file, when that is so; a new file is made where a
  directory for it exists. -/
  extendFailure? : String → Option IoFailure
  /-- The settings file that is used when it is there and no other one is named. -/
  defaultConfig : Option String := none
  clocks : Clocks
  input : Stream.Source
  inputIsTerminal : Bool := false
  outputIsTerminal : Bool := false

namespace Surroundings

/-- The text of a file. -/
def readText (s : Surroundings) (added : Option Addition) (path : String) :
    Except IoFailure String := do
  let source ← s.openFile added path
  match source.failure, Text.decode? source.bytes with
  | some failure, _ => .error failure
  | none, none => .error .notText
  | none, some text => .ok text

end Surroundings

end LogLens
