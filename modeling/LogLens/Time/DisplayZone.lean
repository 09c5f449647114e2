import LogLens.Text.Blank
import LogLens.Time.Instant
/-!
# The zone in which times are shown

Times are shown at Greenwich, on the clock of this machine, or on the clock of a named zone. Which
clock the machine has and which names are those of zones is not for the program to say: `Clocks` comes
from outside, and nothing is assumed about it. A clock may be put forward and back at any time.
-/

namespace LogLens

/-- A clock: the seconds by which it is ahead of Greenwich, at each second from the beginning of
1970. -/
structure Clock where
  offsetAt : (second : Int) → Int

/-- The clocks that are known: the one of this machine, and those of the zones that have a name. -/
structure Clocks where
  machine : Clock
  named? : (name : String) → Option Clock

/-- Where the clock stands by which times are shown. -/
inductive DisplayZone where
  | utc
  | machine (clock : Clock)
  | named (name : String) (clock : Clock)

namespace DisplayZone

instance : Inhabited DisplayZone := ⟨utc⟩

/-- The seconds by which the clock is ahead of Greenwich at an instant. -/
def offsetAt (zone : DisplayZone) (t : Instant) : Int :=
  match zone with
  | utc => 0
  | machine clock => clock.offsetAt t.seconds
  | named _ clock => clock.offsetAt t.seconds

/-- What the clock shows at an instant. -/
def clockface (zone : DisplayZone) (t : Instant) : Clockface :=
  Clockface.of (zone.offsetAt t) t

/-- Whether times need no offset beside them. -/
def isUtc : DisplayZone → Bool
  | utc => true
  | _ => false

/-- The name of the zone. -/
def name : DisplayZone → String
  | utc => "UTC"
  | machine _ => "Local"
  | named name _ => name

/-- Reads the name of a zone, or gives the name that is unknown. Blank characters around it do not
count, and nothing at all is Greenwich. -/
def read (clocks : Clocks) (text : String) : Except String DisplayZone :=
  let name := Text.trimmed text
  let lower := String.ofList (name.toList.map Char.toLower)
  if name = "" ∨ lower = "z" ∨ lower = "utc" then .ok utc
  else if lower = "local" then .ok (machine clocks.machine)
  else
    match clocks.named? name with
    | some clock => .ok (named name clock)
    | none => .error name

/-- What is said about an unknown zone. -/
def unknownMessage (name : String) : String := "Unknown timezone: '" ++ name ++ "'"

end DisplayZone

end LogLens
