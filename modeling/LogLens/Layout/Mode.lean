import LogLens.Time.DisplayZone
/-!
# How records are laid out

Five modes: three for reading, from the long form to the message alone, and two that write the JSON
object of a record, over several lines or in one. `View` joins a mode with the zone of its times and
the use of colors.
-/

namespace LogLens

/-- The form in which records are written. -/
inductive Mode where
  | long
  | short
  | simple
  | json
  | bunyan
  deriving DecidableEq, Repr, Inhabited

namespace Mode

/-- The name of a mode. -/
def name : Mode → String
  | long => "long"
  | short => "short"
  | simple => "simple"
  | json => "json"
  | bunyan => "bunyan"

/-- All modes. -/
def all : List Mode := [long, short, simple, json, bunyan]

/-- The mode of a name. -/
def ofName? (name : String) : Option Mode := all.find? fun m => m.name == name

/-- Whether the mode writes JSON. -/
def isJson : Mode → Bool
  | json => true
  | bunyan => true
  | _ => false

end Mode

/-- Everything that decides how a record is written. -/
structure View where
  mode : Mode := .long
  zone : DisplayZone := .utc
  colors : Bool := false

end LogLens
