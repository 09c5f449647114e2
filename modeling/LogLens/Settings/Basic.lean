import LogLens.Command.Arguments
import LogLens.Settings.Config
/-!
# Settings

The settings of a run come from three layers: the command line, the variables of the environment,
which it has taken up already, and the settings file. What a higher layer says goes before what a
lower one says.

The zone is taken from the first of: a zone name of the command line or its variable, the switch for
local time there, a zone name of the file, the switch of the file; which clocks these stand for is
given from outside. Colors are never used in the JSON modes and otherwise by default on a terminal. A
pager is used only between two terminals.
-/

namespace LogLens

/-- Everything that a run depends on. -/
structure Settings where
  view : View
  levels : Option String
  condition : Option String
  usePager : Bool

namespace Settings

/-- The zone in which times are shown, or the name of an unknown one. -/
def zone (clocks : Clocks) (c : CommandLine) (file : Config) : Except String DisplayZone :=
  match c.timezone, CommandLine.isOn c.localTime, file.timezone, file.localTime with
  | some name, _, _, _ => DisplayZone.read clocks name
  | none, true, _, _ => .ok (.machine clocks.machine)
  | none, false, some name, _ => DisplayZone.read clocks name
  | none, false, none, some true => .ok (.machine clocks.machine)
  | none, false, none, _ => .ok .utc

/-- Whether colors are used. -/
def colors (mode : Mode) (c : CommandLine) (file : Config) (onTerminal : Bool) : Bool :=
  !mode.isJson &&
    match c.colorChoice with
    | some .always => true
    | some .never => false
    | some .auto => onTerminal
    | none => file.color.getD onTerminal

/-- Merges the command line and the settings file. -/
def resolve (clocks : Clocks) (c : CommandLine) (file : Config)
    (inputIsTerminal outputIsTerminal : Bool) : Except String Settings := do
  let mode := (c.output.or file.output).getD .long
  let zone ← zone clocks c file
  .ok
    { view := ⟨mode, zone, colors mode c file outputIsTerminal⟩
      levels := c.levels.or file.levels
      condition := c.condition.or file.condition
      usePager :=
        !CommandLine.isOn c.noPager && file.pager.getD true && inputIsTerminal &&
          outputIsTerminal }

end Settings

end LogLens
