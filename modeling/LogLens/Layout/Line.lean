import LogLens.Layout.Block
import LogLens.Layout.Mode
import LogLens.Layout.Paint
import LogLens.Record.Decode
/-!
# Records in a layout

The long form is `[time] LEVEL: name/pid on host: topic/scope message (fields)`, the short one
leaves the date, the process id and the host out, the simple one is `LEVEL - message`. In the first
two the blobs follow, each on new lines that begin with four blanks. Parts that a record does not
have are left out, and the task id always closes the list of fields.

The two JSON forms write the object that the line of the record denotes. A record that comes from no
such line is turned into an object again: its attributes under their keys, where they differ from
the default, and then its extension values.
-/

namespace LogLens.Layout

/-- The column at which blobs are written. -/
def blobIndent : Nat := 4

/-- The time of a record, as the mode and the zone want it. -/
def timeText (view : View) (t : Instant) : List Char :=
  let c := view.zone.clockface t
  match view.mode with
  | .short => c.timeText 3 ++ (if view.zone.isUtc then ['Z'] else [])
  | _ =>
    '[' :: c.dateText ++ 'T' :: c.timeText 3 ++
      (if view.zone.isUtc then [] else Clockface.offsetText (view.zone.offsetAt t)) ++ [']']

/-- The painted label of a level. -/
def levelText (view : View) (level : Level) : List Char :=
  paint view.colors level.ink level.label

/-- The time and a blank, for a record that has one. -/
def timePart (view : View) (r : Record) : List Char :=
  match r.time with
  | none => []
  | some t => timeText view t ++ [' ']

/-- Who wrote the record. -/
def origin (view : View) (r : Record) : List Char :=
  match view.mode with
  | .short => if r.name = "" then [] else ' ' :: r.name.toList
  | _ =>
    ':' :: ' ' :: r.name.toList ++
      (if 0 < r.pid.toInt then '/' :: (Decimal.intText r.pid.toInt).toList else []) ++
      (if r.hostname = "" then [] else " on ".toList ++ r.hostname.toList)

/-- Everything before the topic. -/
def header (view : View) (r : Record) : List Char :=
  timePart view r ++ levelText view r.level ++ origin view r

/-- Topic and scope and a blank; a scope is shown only after a topic. -/
def topicPart (view : View) (r : Record) : List Char :=
  if r.topic = "" then []
  else
    paint view.colors .green r.topic ++
      (if r.scope = "" then [] else '/' :: paint view.colors .yellow r.scope) ++ [' ']

/-- The message. -/
def messageText (view : View) (r : Record) : List Char := paint view.colors .cyan r.message

/-- The fields, each followed by a comma. -/
def fieldEntries : Dictionary Json → List Char
  | [] => []
  | (key, value) :: rest =>
    key.toList ++ '=' :: fieldValue value ++ ',' :: ' ' :: fieldEntries rest

/-- The list of the fields, the task id last. -/
def fieldPart (r : Record) : List Char :=
  ' ' :: '(' :: fieldEntries r.fields ++ "tid=".toList ++ (Decimal.intText r.tid.toInt).toList ++
    [')']

/-- The blobs, each on new lines. -/
def blobPart : Dictionary Json → List Char
  | [] => []
  | (key, value) :: rest =>
    Json.newLine blobIndent ++ key.toList ++ ':' :: ' ' :: block blobIndent value ++ blobPart rest

/-- The long and the short form. -/
def full (view : View) (r : Record) : List Char :=
  header view r ++ ':' :: ' ' :: topicPart view r ++ messageText view r ++ fieldPart r ++
    blobPart r.blobs

/-- The simple form. -/
def simple (view : View) (r : Record) : List Char :=
  levelText view r.level ++ " - ".toList ++ messageText view r

/-- The members of a text attribute that is not empty. -/
def textMember (key value : String) (members : Dictionary Json) : Dictionary Json :=
  if value = "" then members else members.insert key (.string value)

/-- The member of an id that is positive. -/
def wordMember (key : String) (value : Int64) (members : Dictionary Json) : Dictionary Json :=
  if 0 < value.toInt then members.insert key (.number (.whole (Whole.ofInt64 value)))
  else members

/-- The number of a level as a JSON value. -/
def levelNumber (level : Level) : Json :=
  .number (.whole ((Whole.ofInt? level.number).getD default))

/-- The attributes of a record as members of an object. -/
def attributeMembers (r : Record) : Dictionary Json :=
  let members : Dictionary Json :=
    match r.time with
    | none => []
    | some t => Dictionary.insert "time" (.string (Rfc3339.write 3 t)) []
  let members := members.insert "level" (levelNumber r.level)
  let members := textMember "name" r.name members
  let members := textMember "hostname" r.hostname members
  let members := textMember "topic" r.topic members
  let members := textMember "scope" r.scope members
  let members := wordMember "pid" r.pid members
  let members := wordMember "tid" r.tid members
  members.insert "msg" (.string r.message)

/-- A record as an object, from its attributes, fields and blobs. -/
def rebuilt (r : Record) : Dictionary Json :=
  (r.fields ++ r.blobs).foldl (fun members e => members.insert e.1 e.2) (attributeMembers r)

/-- The JSON object of a record: the one that its line denotes, or a rebuilt one. -/
def object (r : Record) : Json :=
  match Json.parse r.source with
  | .ok (.object members) => .object members
  | _ => .object (rebuilt r)

/-- A record as it is written, without a line break at the end. -/
def render (view : View) (r : Record) : List Char :=
  match view.mode with
  | .long => full view r
  | .short => full view r
  | .simple => simple view r
  | .json => Json.indented 0 (object r)
  | .bunyan => Json.compact (object r)

/-- A record as text. -/
def text (view : View) (r : Record) : String := String.ofList (render view r)

end LogLens.Layout
