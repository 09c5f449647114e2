import LogLens.Surroundings.Basic
import LogLens.Text.Cut
/-!
# Files in memory

A few files stand in for a file system. The place of a file is the list of names on its way from the
root. A list of names is a directory when it is the beginning of the way to a file or to the working
directory. The root is its own parent.

A path is walked name by name, from the root if it begins with a slash and else from the working
directory, and each name has to be looked for in a directory. An empty name and a point stay where
they are, so a path that ends with a slash is one of a directory.
-/

namespace LogLens

/-- The contents of files by their places. -/
abbrev Contents := List (List String × List UInt8)

namespace Contents

/-- The content of the file at a place. -/
def content? : Contents → List String → Option (List UInt8)
  | [], _ => none
  | (p, bytes) :: rest, place => if p = place then some bytes else content? rest place

/-- Adds bytes to the end of the file at a place, which is made if it is not there. -/
def append : Contents → List String → List UInt8 → Contents
  | [], place, bytes => [(place, bytes)]
  | (p, old) :: rest, place, bytes =>
    if p = place then (p, old ++ bytes) :: rest else (p, old) :: append rest place bytes

end Contents

/-- Files, and the place of the working directory. -/
structure Files where
  here : List String
  contents : Contents

namespace Files

/-- What is found at a place. -/
inductive Node where
  | file (bytes : List UInt8)
  | directory
  deriving DecidableEq, Repr

/-- What is found at a place. -/
def node? (files : Files) (place : List String) : Option Node :=
  match files.contents.content? place with
  | some bytes => some (.file bytes)
  | none =>
    if place.isPrefixOf files.here || files.contents.any fun f => place.isPrefixOf f.1 then
      some .directory
    else none

/-- How many bytes a name may have. -/
def maxName : Nat := 255

/-- How many bytes a path may have. -/
def maxPath : Nat := 4095

/-- The names on a path. -/
def names (path : String) : List String := (Text.pieces '/' path.toList).map String.ofList

/-- The place where the walk of a path begins. -/
def start (files : Files) (path : String) : List String :=
  if path.startsWith "/" then [] else files.here

/-- The place of a name in the directory at a place. -/
def step (files : Files) (place : List String) (name : String) : Except IoFailure (List String) :=
  match files.node? place with
  | none => .error .notFound
  | some (.file _) => .error .notDirectory
  | some .directory =>
    if maxName < name.utf8ByteSize then .error .nameTooLong
    else if name = "" ∨ name = "." then .ok place
    else if name = ".." then .ok place.dropLast
    else .ok (place ++ [name])

/-- The place that names lead to. What is on the way has to be there, but not what is at its end. -/
def walk (files : Files) (place : List String) (names : List String) :
    Except IoFailure (List String) :=
  names.foldlM files.step place

/-- What is found at a path. -/
def find (files : Files) (path : String) : Except IoFailure Node :=
  if maxPath < path.utf8ByteSize then .error .nameTooLong
  else do
    let place ← files.walk (files.start path) (names path)
    match files.node? place with
    | some node => .ok node
    | none => .error .notFound

/-- The last name of a path and the names before it, and whether slashes follow it. -/
def lastName? (names : List String) : Option (List String × String × Bool) :=
  let trimmed := (names.reverse.dropWhile (· == "")).reverse
  trimmed.getLast?.map fun name => (trimmed.dropLast, name, decide (trimmed.length < names.length))

/-- The place of the file at a path to the end of which something is added. Something with a slash
after it would be a directory, whether it is there or not. -/
def target (files : Files) (path : String) : Except IoFailure (List String) :=
  if maxPath < path.utf8ByteSize then .error .nameTooLong
  else
    match lastName? (names path) with
    | none => .error .isDirectory
    | some (way, name, slashed) => do
      let parent ← files.walk (files.start path) way
      let _ ← files.step parent ""
      if slashed then .error .isDirectory
      else do
        let place ← files.step parent name
        if files.node? place = some .directory then .error .isDirectory else .ok place

/-- The files after an addition. -/
def append (files : Files) (added : Addition) : Files :=
  match files.target added.path with
  | .ok place => { files with contents := files.contents.append place added.bytes }
  | .error _ => files

/-- What opening a path for reading gives after an addition. A directory can be opened, but not
read. -/
def openFile (files : Files) (added : Option Addition) (path : String) :
    Except IoFailure Stream.Source :=
  let files := (added.map files.append).getD files
  (files.find path).map fun node =>
    match node with
    | .file bytes => { bytes := bytes }
    | .directory => { failure := some .isDirectory }

/-- Why nothing can be added to the end of a file. -/
def extendFailure? (files : Files) (path : String) : Option IoFailure :=
  match files.target path with
  | .ok _ => none
  | .error failure => some failure

end Files

end LogLens
