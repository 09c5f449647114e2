import LogLens.Layout.Mode
import LogLens.Settings.Toml
/-!
# Preferences from a settings file

A settings file can set the mode, the zone, the use of colors and of a pager, a level set and a
condition. Every key is optional; a key that is not known or has a value of the wrong kind makes the
whole file unusable.
-/

namespace LogLens

/-- What a settings file says. -/
structure Config where
  output : Option Mode := none
  timezone : Option String := none
  localTime : Option Bool := none
  color : Option Bool := none
  levels : Option String := none
  condition : Option String := none
  pager : Option Bool := none
  deriving DecidableEq, Repr

namespace Config

/-- A text. -/
def text? : Toml.Value → Option String
  | .text s => some s
  | _ => none

/-- A truth value. -/
def flag? : Toml.Value → Option Bool
  | .flag b => some b
  | _ => none

/-- A mode: its name, or a table with its name as the only key and nothing under it. -/
def mode? : Toml.Value → Option Mode
  | .text s => Mode.ofName? s
  | .table _ [(name, .emptyList)] => Mode.ofName? name
  | .table _ [(name, .table _ [])] => Mode.ofName? name
  | _ => none

/-- Takes one key into account. -/
def set? (config : Config) (key : String) (value : Toml.Value) : Option Config :=
  match key with
  | "output" => (mode? value).map fun m => { config with output := some m }
  | "timezone" => (text? value).map fun s => { config with timezone := some s }
  | "local" => (flag? value).map fun b => { config with localTime := some b }
  | "color" => (flag? value).map fun b => { config with color := some b }
  | "level" => (text? value).map fun s => { config with levels := some s }
  | "filter" => (text? value).map fun s => { config with condition := some s }
  | "pager" => (flag? value).map fun b => { config with pager := some b }
  | _ => none

/-- Takes all keys into account. -/
def ofEntries? (config : Config) : Toml.Entries → Option Config
  | [] => some config
  | (key, value) :: rest => (set? config key value).bind fun config => ofEntries? config rest

/-- The preferences that a settings file expresses. -/
def read? (text : String) : Option Config := (Toml.read? text).bind (ofEntries? {})

end Config

end LogLens
